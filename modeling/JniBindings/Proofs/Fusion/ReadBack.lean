import JniBindings.Generation
import JniBindings.Proofs.ClassNames
import JniBindings.Proofs.Fusion.Merge
import JniBindings.Proofs.Proxy.Members
/-!
# Which namespaces are read back

Any text can be given as a namespace, but the terms of the fusion header are read as paths of words.
Every merge reads what the one before it has written, so the first merge always succeeds, and from
the second on a namespace with other characters is in the way. The path of a namespace says where
its segments end if it is read as words (`Namespace.eq_of_joinWith_eq`), so the proxies of classes
are read back just if every segment is a word (`Fusion.readsBack_iff`).
-/

namespace JniBindings

namespace Namespace

/-! ### Segments -/

/-- No two colons stand side by side. -/
def ColonsApart (s : List Char) : Prop := ¬ [':', ':'] <:+: s

theorem prefix_of_parts {s part : List Char} {others : List (List Char)}
    (h : parts s = part :: others) : part <+: s := by
  fun_induction parts s generalizing part others with
  | case1 =>
    obtain ⟨rfl, -⟩ := List.cons.inj h
    exact List.prefix_rfl
  | case2 rest ih =>
    obtain ⟨rfl, -⟩ := List.cons.inj h
    exact List.nil_prefix
  | case3 c rest _ hnil =>
    obtain ⟨rfl, -⟩ := List.cons.inj h
    exact List.prefix_append [c] rest
  | case4 c rest _ first _ hparts ih =>
    obtain ⟨rfl, -⟩ := List.cons.inj h
    exact (List.prefix_cons_inj c).2 (ih hparts)

theorem colonsApart_of_mem_parts {s part : List Char} (h : part ∈ parts s) : ColonsApart part := by
  fun_induction parts s generalizing part with
  | case1 =>
    obtain rfl := List.mem_singleton.1 h
    simp [ColonsApart]
  | case2 rest ih =>
    rcases List.mem_cons.1 h with rfl | h
    · simp [ColonsApart]
    · exact ih h
  | case3 c rest _ hnil =>
    obtain rfl := List.mem_singleton.1 h
    simp [ColonsApart, List.infix_cons_iff]
  | case4 c rest hc first others hparts ih =>
    rcases List.mem_cons.1 h with rfl | h
    · intro hpair
      rcases List.infix_cons_iff.1 hpair with hpair | hpair
      · -- the text begins with two colons, so that they would not have come into a part
        obtain ⟨rfl, hfirst⟩ := List.cons_prefix_cons.1 hpair
        obtain ⟨tail, rfl⟩ := hfirst.trans (prefix_of_parts hparts)
        exact hc tail rfl rfl
      · exact ih (by rw [hparts]; exact List.mem_cons_self) hpair
    · exact ih (by rw [hparts]; exact List.mem_cons_of_mem _ h)

/-- The segments that a text names are not empty, and no two colons stand side by side in them. -/
theorem of_mem_segments {text s : String} (h : s ∈ (ofText text).segments) :
    s.toList ≠ [] ∧ ColonsApart s.toList := by
  obtain ⟨part, hpart, hs⟩ := List.mem_filterMap.1 h
  obtain ⟨whole, hwhole, rfl⟩ := List.mem_map.1 hpart
  split_ifs at hs with hempty
  obtain rfl := Option.some.inj hs
  rw [String.toList_ofList]
  refine ⟨by simpa using hempty, fun hpair => ?_⟩
  exact colonsApart_of_mem_parts hwhole (hpair.trans (Text.infix_trimList whole))

/-! ### Paths -/

theorem behindFirst_cons (t : String) (segments : List String) :
    Text.behindFirst "::" (t :: segments)
      = ':' :: ':' :: (Text.joinWith "::" (t :: segments)).toList := rfl

/-- The first colons of two texts stand in the same place. -/
theorem append_colon_inj {s s' t t' : List Char} (hs : ':' ∉ s) (hs' : ':' ∉ s')
    (h : s ++ ':' :: t = s' ++ ':' :: t') : s = s' ∧ t = t' := by
  induction s generalizing s' with
  | nil =>
    cases s' with
    | nil => exact ⟨rfl, (List.cons.inj h).2⟩
    | cons c s' =>
      obtain ⟨rfl, -⟩ := List.cons.inj h
      exact absurd List.mem_cons_self hs'
  | cons c s ih =>
    cases s' with
    | nil =>
      obtain ⟨rfl, -⟩ := List.cons.inj h
      exact absurd List.mem_cons_self hs
    | cons d s' =>
      obtain ⟨rfl, htail⟩ := List.cons.inj h
      rw [List.mem_cons, not_or] at hs hs'
      obtain ⟨rfl, ht⟩ := ih hs.2 hs'.2 htail
      exact ⟨rfl, ht⟩

/-- Words determine where the segments of a path end: a segment in the place of a word has no
colon. -/
theorem colon_not_mem {s w : List Char} {segments words : List String} (hs : ColonsApart s)
    (hw : ':' ∉ w) (hwords : ∀ word ∈ words, IsWord word)
    (h : s ++ Text.behindFirst "::" segments = w ++ Text.behindFirst "::" words) : ':' ∉ s := by
  intro hmem
  obtain ⟨u, v, rfl, hu⟩ := List.eq_append_cons_of_mem hmem
  rw [List.append_assoc, List.cons_append] at h
  cases words with
  | nil =>
    rw [Text.behindFirst, List.append_nil] at h
    exact hw (by rw [← h]; simp)
  | cons word words =>
    obtain ⟨hne, hall⟩ := hwords word List.mem_cons_self
    obtain ⟨c, tail, hword⟩ := List.exists_cons_of_ne_nil hne
    have hc : c ≠ ':' := by
      rintro rfl
      rw [hword] at hall
      exact absurd (List.all_eq_true.1 hall ':' List.mem_cons_self) (by decide)
    have hbehind : v ++ Text.behindFirst "::" segments
        = ':' :: c :: (tail ++ Text.behindFirst "::" words) := by
      have hjoin := Text.toList_joinWith_cons "::" word words
      rw [hword] at hjoin
      rw [behindFirst_cons, hjoin] at h
      exact (append_colon_inj hu hw h).2
    cases v with
    | nil =>
      cases segments with
      | nil => cases hbehind
      | cons t segments =>
        exact hc (List.cons.inj (List.cons.inj hbehind).2).1.symm
    | cons d v =>
      obtain ⟨rfl, -⟩ := List.cons.inj hbehind
      exact hs ⟨u, v, by simp⟩

theorem append_behindFirst_inj {s w : List Char} {segments words : List String} (hs : ':' ∉ s)
    (hw : ':' ∉ w) (h : s ++ Text.behindFirst "::" segments = w ++ Text.behindFirst "::" words) :
    s = w ∧ Text.behindFirst "::" segments = Text.behindFirst "::" words := by
  cases segments with
  | nil =>
    cases words with
    | nil => exact ⟨by simpa [Text.behindFirst] using h, rfl⟩
    | cons word words =>
      rw [Text.behindFirst, List.append_nil, behindFirst_cons] at h
      exact absurd (by rw [h]; simp) hs
  | cons t segments =>
    cases words with
    | nil =>
      rw [Text.behindFirst, behindFirst_cons, List.append_nil] at h
      exact absurd (by rw [← h]; simp) hw
    | cons word words =>
      obtain ⟨heq, hbehind⟩ := append_colon_inj hs hw h
      exact ⟨heq, congrArg (':' :: ·) hbehind⟩

/-- Segments that make up the same path as words are these words. -/
theorem eq_of_joinWith_eq {segments words : List String}
    (hs : ∀ s ∈ segments, s.toList ≠ [] ∧ ColonsApart s.toList) (hw : ∀ w ∈ words, IsWord w)
    (h : Text.joinWith "::" segments = Text.joinWith "::" words) : segments = words := by
  have hlist := congrArg String.toList h
  induction segments generalizing words with
  | nil =>
    cases words with
    | nil => rfl
    | cons w words =>
      rw [Text.toList_joinWith_cons] at hlist
      exact absurd (List.append_eq_nil_iff.1 hlist.symm).1 (hw w List.mem_cons_self).1
  | cons s segments ih =>
    cases words with
    | nil =>
      rw [Text.toList_joinWith_cons] at hlist
      exact absurd (List.append_eq_nil_iff.1 hlist).1 (hs s List.mem_cons_self).1
    | cons w words =>
      rw [Text.toList_joinWith_cons, Text.toList_joinWith_cons] at hlist
      have hrest := fun word hword => hw word (List.mem_cons_of_mem w hword)
      have hcolon : ':' ∉ w.toList := (hw w List.mem_cons_self).not_mem (by decide)
      have hcolon' := colon_not_mem (hs s List.mem_cons_self).2 hcolon hrest hlist
      obtain ⟨heq, hbehind⟩ := append_behindFirst_inj hcolon' hcolon hlist
      have hjoin := Text.joinWith_eq_of_behindFirst_eq (by decide) hbehind
      rw [String.toList_inj.1 heq, ih (fun t ht => hs t (List.mem_cons_of_mem s ht)) hrest hjoin
        (congrArg String.toList hjoin)]

/-- If the path of a namespace can be put together from words, its segments are words. -/
theorem isWord_of_path_eq {text : String} {words : List String} (hw : ∀ w ∈ words, IsWord w)
    (h : (ofText text).path = Text.joinWith "::" words) :
    ∀ s ∈ (ofText text).segments, IsWord s := by
  rw [eq_of_joinWith_eq (fun s hs => of_mem_segments hs) hw h]
  exact hw

end Namespace

/-! ### Entries of classes -/

/-- What a class with given names adds to the fusion header. -/
def Config.fusionEntryOf (config : Config) (names : ClassNames) : FusionEntry :=
  ⟨config.namespacePath.path, names.proxy, config.namespacePath.fileStart ++ names.proxy ++ ".h"⟩

theorem Proxy.fusionEntry_of_ofModel {config : Config} {names : ClassNames} {c : ClassModel}
    {p : Proxy} (h : ofModel config names c = .ok p) :
    p.fusionEntry = config.fusionEntryOf names := by
  obtain ⟨_, _, hp⟩ := isMadeFrom_of_ofModel h
  rw [fusionEntry, hp.config, hp.names, hp.headerName, Config.fusionEntryOf]

namespace Fusion

variable {config : Config} {classes : List ClassModel} {ns : List ClassNames}

theorem isWritable_fusionEntryOf {names : ClassNames} (hproxy : IsWord names.proxy)
    (hsegments : ∀ s ∈ config.namespacePath.segments, IsWord s) :
    (config.fusionEntryOf names).IsWritable where
  term := ⟨hproxy, config.namespacePath.segments, rfl, hsegments⟩
  header := by
    refine isHeaderName_append_ending fun c hc => ?_
    rw [String.toList_append, List.mem_append] at hc
    rcases hc with hc | hc
    · exact Namespace.isWordChar_of_mem_fileStart hsegments hc
    · exact List.all_eq_true.1 hproxy.2 c hc

/-- Entries in a namespace of words are read back. -/
theorem readsBack_of_isWord (hproxy : ∀ names ∈ ns, IsWord names.proxy)
    (hsegments : ∀ s ∈ config.namespacePath.segments, IsWord s) :
    ∃ header f, (ns.map config.fusionEntryOf).foldlM merge "" = .ok header
      ∧ parse header = .ok f
      ∧ ∀ names ∈ ns, ⟨config.namespacePath.path, names.proxy⟩ ∈ f.terms := by
  have hwritable : ∀ e ∈ ns.map config.fusionEntryOf, e.IsWritable := by
    intro e he
    obtain ⟨names, hnames, rfl⟩ := List.mem_map.1 he
    exact isWritable_fusionEntryOf (hproxy names hnames) hsegments
  obtain ⟨header, hmerge, hparse, -⟩ :=
    foldlM_merge_of_parse parse_empty isWritable_empty hwritable
  refine ⟨header, _, hmerge, hparse, fun names hnames => ?_⟩
  rw [terms_foldl_insert, mem_foldl_addNew_iff]
  exact Or.inr (List.mem_map_of_mem (List.mem_map_of_mem hnames))

/-- Classes are merged into an empty text, one after the other, and the result is read as a header
that initialises the proxies of all of them: this is so if every segment of their namespace is made
of ASCII letters, digits and underscores, and for no other namespace unless there are no classes at
all. -/
theorem readsBack_iff (config : Config) (text : String) {classes : List ClassModel}
    {ns : List ClassNames} (h : classes.mapM ClassNames.ofModel = .ok ns) :
    (∀ names c p, Proxy.ofModel (config.withNamespace text) names c = .ok p →
        p.fusionEntry = (config.withNamespace text).fusionEntryOf names)
      ∧ ((∃ header f,
          (ns.map (config.withNamespace text).fusionEntryOf).foldlM merge "" = .ok header
          ∧ parse header = .ok f
          ∧ ∀ names ∈ ns, ⟨(Namespace.ofText text).path, names.proxy⟩ ∈ f.terms)
        ↔ classes = [] ∨ ∀ s ∈ (Namespace.ofText text).segments, IsWord s) := by
  refine ⟨fun names c p hp => Proxy.fusionEntry_of_ofModel hp, ?_⟩
  have hproxy : ∀ names ∈ ns, IsWord names.proxy := by
    intro names hnames
    obtain ⟨c, -, hc⟩ := exists_of_mem_mapM h hnames
    exact (ClassNames.isMadeFrom_of_ofModel hc).isWord_proxy
  constructor
  · rintro ⟨header, f, -, hparse, hterms⟩
    cases ns with
    | nil =>
      left
      exact List.forall₂_nil_right_iff.1 (mapM_eq_ok_iff.1 h)
    | cons names ns =>
      right
      have hmem := hterms names List.mem_cons_self
      obtain ⟨-, words, hpath, hwords⟩ := isWritable_of_mem_terms hparse hmem
      exact Namespace.isWord_of_path_eq hwords hpath
  · rintro (rfl | hsegments)
    · obtain rfl := Except.ok.inj h
      exact ⟨"", empty, rfl, parse_empty, nofun⟩
    · exact readsBack_of_isWord hproxy hsegments

/-- Classes of the same simple name, in a namespace with white space and empty segments. -/
theorem readsBack_iff_spacedPath :
    ∃ ns header f, [ClassModel.ofName "a.Foo", .ofName "b.C$D", .ofName "größe.Foo"].mapM
        ClassNames.ofModel = .ok ns
      ∧ (ns.map (Config.withNamespace {} " x ::::_1").fusionEntryOf).foldlM merge "" = .ok header
      ∧ parse header = .ok f
      ∧ ∀ names ∈ ns, ⟨(Namespace.ofText " x ::::_1").path, names.proxy⟩ ∈ f.terms := by
  obtain ⟨ns, hns⟩ : ∃ ns, [ClassModel.ofName "a.Foo", .ofName "b.C$D", .ofName "größe.Foo"].mapM
    ClassNames.ofModel = .ok ns := ⟨_, rfl⟩
  obtain ⟨-, hiff⟩ := readsBack_iff {} " x ::::_1" hns
  obtain ⟨header, f, hmerge, hparse, hterms⟩ := hiff.2 (.inr (by decide +kernel))
  exact ⟨ns, header, f, hns, hmerge, hparse, hterms⟩

theorem merge_of_parse_eq_error {text : String} {failure : Failure}
    (h : parse text = .error failure) (e : FusionEntry) : merge text e = .error failure := by
  rw [merge, h]
  rfl

theorem foldlM_merge_cons {text merged : String} {e : FusionEntry} (h : merge text e = .ok merged)
    (es : List FusionEntry) : (e :: es).foldlM merge text = es.foldlM merge merged := by
  rw [List.foldlM_cons, h]
  rfl

theorem parse_render_umlaut :
    parse (empty.insert ⟨"größe", "FooProxy", "größe_FooProxy.h"⟩).render
      = .error (.malformed (.strayInitLine "&& ::größe::FooProxy::initClazz(env)")) := by
  rw [parse, toList_render]
  decide +kernel

/-- The namespace is an identifier of C++, and both classes have names. The first merge succeeds,
but what it writes is not read, so that the second merge fails. -/
theorem exists_not_readsBack :
    ∃ foo bar header failure, ClassNames.ofModel (.ofName "a.Foo") = .ok foo
      ∧ ClassNames.ofModel (.ofName "a.Bar") = .ok bar
      ∧ merge "" ((Config.withNamespace {} "größe").fusionEntryOf foo) = .ok header
      ∧ parse header = .error failure
      ∧ ([foo, bar].map (Config.withNamespace {} "größe").fusionEntryOf).foldlM merge ""
        = .error failure := by
  obtain ⟨foo, hfoo, hentry⟩ : ∃ foo, ClassNames.ofModel (.ofName "a.Foo") = .ok foo
      ∧ (Config.withNamespace {} "größe").fusionEntryOf foo
        = ⟨"größe", "FooProxy", "größe_FooProxy.h"⟩ :=
    ⟨_, rfl, by decide +kernel⟩
  obtain ⟨bar, hbar⟩ : ∃ bar, ClassNames.ofModel (.ofName "a.Bar") = .ok bar := ⟨_, rfl⟩
  have hmerge := merge_of_parse parse_empty ((Config.withNamespace {} "größe").fusionEntryOf foo)
  refine ⟨foo, bar, _, _, hfoo, hbar, hmerge, hentry ▸ parse_render_umlaut, ?_⟩
  rw [List.map_cons, List.map_singleton, foldlM_merge_cons hmerge, hentry, List.foldlM_cons,
    merge_of_parse_eq_error parse_render_umlaut]
  rfl

end Fusion

end JniBindings
