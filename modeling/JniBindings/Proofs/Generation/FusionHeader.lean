import JniBindings.Proofs.FileTree.Repeat
import JniBindings.Proofs.Fusion.Merge
import JniBindings.Proofs.Generation.Places
/-!
# The fusion header in a generation

All classes of a batch share the fusion header. A class adds its proxy to it as the last of its
actions, so that one that fails leaves it as it is (`fuses_runActions`). In the end the header has
got the proxies of those classes that have not failed (`fuses_processFrom`), as long as files and
folders can be accessed and nothing else is written in its place.
-/

namespace JniBindings

/-! ### The text of the header -/

namespace Files

theorem textOf_eq_ok_iff {content : ByteArray} {text : String} :
    textOf content = .ok text ↔ content = text.toUTF8 := by
  constructor
  · intro h
    unfold textOf String.fromUTF8? at h
    split_ifs at h
    rw [← Except.ok.inj h]
    rfl
  · rintro rfl
    exact textOf_toUTF8 text

theorem eq_io_of_textOf {content : ByteArray} {failure : Failure}
    (h : textOf content = .error failure) : failure = .io := by
  unfold textOf at h
  split at h
  · cases h
  · exact (Except.error.inj h).symm

end Files

theorem Fusion.render_ne_empty (f : Fusion) : f.render ≠ "" := by
  intro h
  have hnewline : '\n' ∈ f.render.toList := by
    rw [toList_render]
    simp
  rw [h] at hnewline
  cases hnewline

namespace FileTree

variable {t t' s : FileTree} {loc : Location} {text : String}

/-- The text of the file at a location, and no text at all if nothing is there. -/
def textAt (t : FileTree) (loc : Location) : Except Failure String :=
  match t.node? loc with
  | none => .ok ""
  | some .folder => .error .io
  | some (.file content) => Files.textOf content

theorem textAt_of_node? (h : t.node? loc = some (.file text.toUTF8)) : t.textAt loc = .ok text := by
  rw [textAt, h]
  exact Files.textOf_toUTF8 text

theorem of_textAt_eq_ok (h : t.textAt loc = .ok text) :
    t.node? loc = some (.file text.toUTF8) ∨ t.node? loc = none ∧ text = "" := by
  unfold textAt at h
  split at h
  · next hnode => exact Or.inr ⟨hnode, (Except.ok.inj h).symm⟩
  · cases h
  · next content hnode =>
    left
    rw [hnode, Files.textOf_eq_ok_iff.1 h]

/-- Two trees have the same file at a location, or none of them has a file there. -/
def SameFile (loc : Location) (t t' : FileTree) : Prop :=
  ∀ content, t.node? loc = some (.file content) ↔ t'.node? loc = some (.file content)

theorem SameFile.refl (loc : Location) (t : FileTree) : t.SameFile loc t := fun _ => Iff.rfl

theorem SameFile.symm (h : t.SameFile loc t') : t'.SameFile loc t :=
  fun content => (h content).symm

theorem SameFile.trans (h : t.SameFile loc s) (h' : s.SameFile loc t') : t.SameFile loc t' :=
  fun content => (h content).trans (h' content)

theorem SameFile.text_eq {text' : String} (h : t.SameFile loc t') (htext : t.textAt loc = .ok text)
    (htext' : t'.textAt loc = .ok text') : text = text' := by
  rcases of_textAt_eq_ok htext with hfile | ⟨hnone, rfl⟩
  · have hfile' := textAt_of_node? ((h _).1 hfile)
    exact Except.ok.inj (hfile'.symm.trans htext')
  · rcases of_textAt_eq_ok htext' with hfile' | ⟨-, rfl⟩
    · have hfile := (h _).2 hfile'
      rw [hnone] at hfile
      cases hfile
    · rfl

/-- What becomes of the file at a location when entries are merged into its text: it stays as it is
if there are none, and has the merged text otherwise. -/
inductive Fuses (loc : Location) (t t' : FileTree) : List FusionEntry → Prop
  | nothing (same : t.SameFile loc t') : Fuses loc t t' []
  | merged {es : List FusionEntry} {text final : String} (ne_nil : es ≠ [])
      (text_eq : t.textAt loc = .ok text) (merge : es.foldlM Fusion.merge text = .ok final)
      (node : t'.node? loc = some (.file final.toUTF8)) : Fuses loc t t' es

namespace Fuses

variable {es es' : List FusionEntry}

theorem trans {written : Location → Prop} (h : t.Fuses loc s es) (h' : s.Fuses loc t' es')
    (hl : t.Leads written s) : t.Fuses loc t' (es ++ es') := by
  cases h with
  | nothing same =>
    rw [List.nil_append]
    cases h' with
    | nothing same' => exact .nothing (same.trans same')
    | @merged _ text final ne_nil text_eq merge node =>
      refine .merged ne_nil ?_ merge node
      rcases of_textAt_eq_ok text_eq with hfile | ⟨hnone, rfl⟩
      · exact textAt_of_node? ((same _).2 hfile)
      · have ht : t.node? loc = none := by
          by_contra hsome
          have hthere := hl.isSome (Option.isSome_iff_ne_none.2 hsome)
          rw [hnone] at hthere
          cases hthere
        rw [textAt, ht]
  | @merged _ text middle ne_nil text_eq merge node =>
    cases h' with
    | nothing same' =>
      rw [List.append_nil]
      exact .merged ne_nil text_eq merge ((same' _).1 node)
    | @merged _ text' final _ text_eq' merge' node' =>
      have htext : middle = text' := Except.ok.inj ((textAt_of_node? node).symm.trans text_eq')
      refine .merged (by simp [ne_nil]) text_eq ?_ node'
      rw [List.foldlM_append, merge, htext]
      exact merge'

/-- The same entries make the same file of the same. -/
theorem sameFile {u u' : FileTree} (h : t.Fuses loc t' es) (h' : u.Fuses loc u' es)
    (hsame : t.SameFile loc u) : t'.SameFile loc u' := by
  cases h with
  | nothing same =>
    cases h' with
    | nothing same' => exact same.symm.trans (hsame.trans same')
    | merged ne_nil => exact absurd rfl ne_nil
  | merged ne_nil text_eq merge node =>
    cases h' with
    | nothing => exact absurd rfl ne_nil
    | merged _ text_eq' merge' node' =>
      obtain rfl := hsame.text_eq text_eq text_eq'
      obtain rfl := Except.ok.inj (merge.symm.trans merge')
      intro content
      rw [node, node']

end Fuses

end FileTree

/-! ### Adding one proxy -/

variable {t t' : FileTree} {p header : Path} {entry : FusionEntry}

theorem run_registerProxy_of_error {failure : Failure}
    (h : (Files.readTextOrEmpty p : StateM FileTree _).run t = (.error failure, t)) :
    (registerProxy p entry : StateM FileTree _).run t = (.error failure, t) := by
  rw [registerProxy, StateT.run_bind, h]
  rfl

theorem run_registerProxy_of_ok {text : String}
    (h : (Files.readTextOrEmpty p : StateM FileTree _).run t = (.ok text, t)) :
    (registerProxy p entry : StateM FileTree _).run t = match Fusion.merge text entry with
      | .error failure => (.error failure, t)
      | .ok merged => if merged = text then (.ok (), t)
        else (orFail (t.write p merged.toUTF8).2, (t.write p merged.toUTF8).1) := by
  rw [registerProxy, StateT.run_bind, h]
  dsimp only [Id.run, bind]
  cases Fusion.merge text entry with
  | error failure => rfl
  | ok merged =>
    dsimp only
    split <;> rfl

theorem run_readTextOrEmpty_of_read {text : String} (h : t.read p = .ok text.toUTF8) :
    (Files.readTextOrEmpty p : StateM FileTree _).run t = (.ok text, t) := by
  rw [run_readTextOrEmpty, h]
  exact congrArg (·, t) (Files.textOf_toUTF8 text)

/-- A path that leads to nothing on a writable place. -/
theorem of_read_eq_missing {content : ByteArray} (h : t.read p = .error .missing)
    (hdone : (t.write p content).2) : t.node? (p.place t.home) = none := by
  obtain ⟨loc, htarget, -⟩ := FileTree.exists_target?_of_write hdone
  rw [← FileTree.place_of_target? htarget]
  cases hnode : t.node? loc with
  | none => rfl
  | some node =>
    exfalso
    have hfind : t.find p = .ok loc :=
      FileTree.find_of_target? htarget (.refl (fun _ => False) t) (Option.isSome_of_mem hnode)
    cases node with
    | folder => exact FileTree.node?_of_target? htarget hnode
    | file content' =>
      have hread : t.read p = .ok content' := by
        rw [FileTree.read_eq_ok_iff, ← FileTree.place_of_target? htarget]
        exact ⟨hfind, hnode⟩
      rw [h] at hread
      cases hread

theorem of_orFail_ne_io {possible : Bool} (h : orFail possible ≠ .error .io) :
    possible = true := by
  by_contra hnot
  rw [orFail, if_neg hnot] at h
  exact h rfl

/-- What adding a proxy comes to if the header can be accessed: the text is changed as
`Fusion.merge` says, or is not that of a fusion header, and then nothing changes. -/
theorem of_run_registerProxy {result : Except Failure Unit}
    (h : (registerProxy p entry : StateM FileTree _).run t = (result, t'))
    (hio : result ≠ .error .io) :
    ∃ text, t.textAt (p.place t.home) = .ok text ∧
      ((∃ failure, Fusion.merge text entry = .error failure ∧ result = .error failure ∧ t' = t
          ∧ t.read p = .ok text.toUTF8)
        ∨ ∃ merged, Fusion.merge text entry = .ok merged ∧ result = .ok ()
          ∧ t'.read p = .ok merged.toUTF8) := by
  have hexisting := run_readTextOrEmpty t p
  cases hread : t.read p with
  | ok content =>
    rw [hread] at hexisting
    change _ = (Files.textOf content, t) at hexisting
    cases htext : Files.textOf content with
    | error failure =>
      rw [htext] at hexisting
      obtain ⟨rfl, -⟩ := Prod.mk.inj ((run_registerProxy_of_error hexisting).symm.trans h)
      exact absurd (congrArg Except.error (Files.eq_io_of_textOf htext)) hio
    | ok text =>
      rw [htext] at hexisting
      rw [run_registerProxy_of_ok hexisting] at h
      obtain rfl := Files.textOf_eq_ok_iff.1 htext
      refine ⟨text, FileTree.textAt_of_node? (FileTree.read_eq_ok_iff.1 hread).2, ?_⟩
      cases hmerge : Fusion.merge text entry with
      | error failure =>
        rw [hmerge] at h
        obtain ⟨rfl, rfl⟩ := Prod.mk.inj h
        exact Or.inl ⟨failure, rfl, rfl, rfl, rfl⟩
      | ok merged =>
        rw [hmerge] at h
        dsimp only at h
        right
        refine ⟨merged, rfl, ?_⟩
        split at h
        · next hsame =>
          obtain ⟨rfl, rfl⟩ := Prod.mk.inj h
          exact ⟨rfl, hsame ▸ hread⟩
        · obtain ⟨rfl, rfl⟩ := Prod.mk.inj h
          have hdone := of_orFail_ne_io hio
          exact ⟨by rw [hdone]; rfl, FileTree.read_write hdone⟩
  | error absence =>
    rw [hread] at hexisting
    cases absence with
    | unusable =>
      obtain ⟨rfl, -⟩ := Prod.mk.inj ((run_registerProxy_of_error hexisting).symm.trans h)
      exact absurd rfl hio
    | missing =>
      have hmerge := Fusion.merge_of_parse Fusion.parse_empty entry
      rw [run_registerProxy_of_ok hexisting, hmerge] at h
      dsimp only at h
      rw [if_neg (Fusion.render_ne_empty _)] at h
      obtain ⟨rfl, rfl⟩ := Prod.mk.inj h
      have hdone := of_orFail_ne_io hio
      refine ⟨"", ?_, Or.inr ⟨_, hmerge, by rw [hdone]; rfl, FileTree.read_write hdone⟩⟩
      rw [FileTree.textAt, of_read_eq_missing hread hdone]

theorem result_of_registerProxy {result : Except Failure Unit}
    (h : (registerProxy p entry : StateM FileTree _).run t = (result, t'))
    (hio : result ≠ .error .io) : ∃ text, t.textAt (p.place t.home) = .ok text
      ∧ result = (Fusion.merge text entry).map fun _ => () := by
  obtain ⟨text, htext, ⟨failure, hmerge, rfl, -⟩ | ⟨merged, hmerge, rfl, -⟩⟩ :=
    of_run_registerProxy h hio
  · exact ⟨text, htext, by rw [hmerge]; rfl⟩
  · exact ⟨text, htext, by rw [hmerge]; rfl⟩

/-! ### The actions of a class -/

/-- What an action adds to the fusion header. -/
def Action.entry? : Action → Option FusionEntry
  | .register _ entry => some entry
  | _ => none

instance (home : Location) : (a : Action) → (loc : Location) → Decidable (a.WritesAt home loc)
  | .write path _, loc => inferInstanceAs (Decidable (loc = path.place home))
  | .register path _, loc => inferInstanceAs (Decidable (loc = path.place home))
  | .createFolder _, _ => inferInstanceAs (Decidable False)
  | .fail _, _ => inferInstanceAs (Decidable False)

/-- The actions in front of the first failure. No others are carried out. -/
def attempted : List Action → List Action
  | [] => []
  | .fail _ :: _ => []
  | a :: rest => a :: attempted rest

/-- The path of the fusion header, if there is one. -/
def Config.fusionPath? (config : Config) (out : Path) : Option Path :=
  config.fusionFile.map (out.join proxyFolder).join

/-- What a class adds to the fusion header. -/
def Config.entries (config : Config) (kinds : List OutputKind) (out : Path) (c : ClassModel) :
    List FusionEntry :=
  (classActions config kinds out c).filterMap Action.entry?

/-- The fusion header does not lie in the place of any other file that is generated. -/
def Config.FusionIsAlone (config : Config) (kinds : List OutputKind) (out : Path) (home : Location)
    (classes : List ClassModel) : Prop :=
  ∀ header ∈ config.fusionPath? out, ∀ c ∈ classes,
    ∀ a ∈ attempted (classActions config kinds out c), a.entry? = none →
      ¬ a.WritesAt home (header.place home)

instance (config : Config) (kinds : List OutputKind) (out : Path) (home : Location)
    (classes : List ClassModel) : Decidable (config.FusionIsAlone kinds out home classes) :=
  inferInstanceAs (Decidable (∀ header ∈ config.fusionPath? out, ∀ c ∈ classes,
    ∀ a ∈ attempted (classActions config kinds out c), a.entry? = none →
      ¬ a.WritesAt home (header.place home)))

/-- Only the last action adds to the fusion header, and no other writes in its place. -/
structure FusesLast (home : Location) (header? : Option Path) (actions : List Action) : Prop where
  mem : ∀ path entry, .register path entry ∈ actions → path ∈ header?
  last : actions.Pairwise fun a _ => a.entry? = none
  alone : ∀ header ∈ header?, ∀ a ∈ attempted actions, a.entry? = none →
    ¬ a.WritesAt home (header.place home)

variable {home : Location} {header? : Option Path} {a : Action} {actions rest : List Action}

theorem attempted_cons (ha : ∀ failure, a ≠ .fail failure) :
    attempted (a :: rest) = a :: attempted rest := by
  cases a with
  | fail failure => exact absurd rfl (ha failure)
  | createFolder | write | register => rfl

theorem attempted_eq_self (h : ∀ failure, .fail failure ∉ actions) :
    attempted actions = actions := by
  induction actions with
  | nil => rfl
  | cons a rest ih =>
    have ha : ∀ failure, a ≠ .fail failure := by
      rintro failure rfl
      exact h failure List.mem_cons_self
    rw [attempted_cons ha, ih fun failure hmem => h failure (List.mem_cons_of_mem a hmem)]

theorem FusesLast.of_cons (h : FusesLast home header? (a :: rest))
    (ha : ∀ failure, a ≠ .fail failure) : FusesLast home header? rest where
  mem path entry hmem := h.mem path entry (List.mem_cons_of_mem a hmem)
  last := (List.pairwise_cons.1 h.last).2
  alone header hheader b hmem := by
    apply h.alone header hheader b
    rw [attempted_cons ha]
    exact List.mem_cons_of_mem a hmem

section Lists

variable {config : Config} {kinds : List OutputKind} {out : Path} {classes : List ClassModel}
  {c : ClassModel} {names : ClassNames}

theorem entry?_of_mem_actions {folder : Path} {g : GeneratedClass} (ha : a ∈ g.actions folder) :
    a.entry? = none := by
  rcases List.mem_cons.1 ha with rfl | ha
  · rfl
  · obtain ⟨f, -, rfl⟩ := List.mem_map.1 ha
    rfl

theorem entry?_of_mem_glueActions (ha : a ∈ glueActions config names c out) : a.entry? = none := by
  rcases of_mem_glueActions ha with ⟨failure, rfl⟩ | ⟨-, glue, -, ha⟩
  · rfl
  · exact entry?_of_mem_actions ha

theorem pairwise_proxyActions :
    (proxyActions config names c out).Pairwise fun a _ => a.entry? = none := by
  rw [proxyActions]
  split
  · exact List.pairwise_singleton _ _
  · next proxy _ =>
    have hfront : ∀ a ∈ proxy.files.actions (out.join proxyFolder)
        ++ (if config.useJniHelper then [helperHeader.action (out.join proxyFolder)] else []),
        a.entry? = none := by
      intro a ha
      rcases List.mem_append.1 ha with ha | ha
      · exact entry?_of_mem_actions ha
      · split at ha
        · rw [List.mem_singleton.1 ha]
          rfl
        · cases ha
    refine List.pairwise_append.2 ⟨?_, ?_, fun a ha _ _ => hfront a ha⟩
    · exact List.pairwise_of_forall_mem_list fun a ha _ _ => hfront a ha
    · cases config.fusionFile with
      | none => exact List.Pairwise.nil
      | some name => exact List.pairwise_singleton _ _

/-- Nothing is done for a class after its proxy has been added to the fusion header. -/
theorem pairwise_classActions :
    (classActions config kinds out c).Pairwise fun a _ => a.entry? = none := by
  rw [classActions]
  split
  · exact List.pairwise_singleton _ _
  · next names _ =>
    have hglue : ∀ a ∈ (if .glue ∈ kinds then glueActions config names c out else []),
        a.entry? = none := by
      intro a ha
      split at ha
      · exact entry?_of_mem_glueActions ha
      · cases ha
    refine List.pairwise_append.2 ⟨?_, ?_, fun a ha _ _ => hglue a ha⟩
    · exact List.pairwise_of_forall_mem_list fun a ha _ _ => hglue a ha
    · split
      · exact pairwise_proxyActions
      · exact List.Pairwise.nil

/-- The actions of a class add its proxy to the fusion header last. -/
theorem fusesLast_classActions (h : config.FusionIsAlone kinds out home classes)
    (hc : c ∈ classes) :
    FusesLast home (config.fusionPath? out) (classActions config kinds out c) where
  mem path entry hmem := by
    have hw : (Action.register path entry).WritesAt home (path.place home) := rfl
    rcases of_writesAt_classActions hmem hw with
      ⟨_, _, _, _, _, _, _, h⟩ | ⟨_, h⟩ | ⟨name, hname, _, h⟩
    · cases h
    · cases h
    · rw [(Action.register.inj h).1, Config.fusionPath?, Option.mem_def, hname]
      rfl
  last := pairwise_classActions
  alone header hheader := h header hheader c hc

/-- What a class adds to the fusion header is made from the names of its proxy. -/
theorem of_mem_entries (h : entry ∈ config.entries kinds out c) :
    ∃ names, ClassNames.ofModel c = .ok names
      ∧ entry = ⟨config.namespacePath.path, names.proxy,
        config.namespacePath.fileStart ++ names.proxy ++ ".h"⟩ := by
  obtain ⟨a, ha, hentry⟩ := List.mem_filterMap.1 h
  have hfail : ¬ ∃ failure, a = .fail failure := by
    rintro ⟨failure, rfl⟩
    cases hentry
  rw [classActions] at ha
  split at ha
  · next failure _ => exact absurd ⟨failure, List.mem_singleton.1 ha⟩ hfail
  · next names hnames =>
    refine ⟨names, hnames, ?_⟩
    rcases List.mem_append.1 ha with ha | ha
    · split at ha
      · rw [entry?_of_mem_glueActions ha] at hentry
        cases hentry
      · cases ha
    · split at ha
      · obtain ⟨proxy, hproxy, ha | ⟨-, rfl⟩ | ⟨name, -, rfl⟩⟩ :=
          (of_mem_proxyActions ha).resolve_left hfail
        · rw [entry?_of_mem_actions ha] at hentry
          cases hentry
        · cases hentry
        · obtain ⟨_, _, hp⟩ := Proxy.isMadeFrom_of_ofModel hproxy
          rw [← Option.some.inj hentry, Proxy.fusionEntry, hp.config, hp.names, hp.headerName]
      · cases ha

end Lists

/-! ### What a class does to the header -/

/-- The entries that are merged, given all that would be: none of them after a failure. -/
def entriesIf {α : Type} (outcome : Except Failure α) (es : List FusionEntry) : List FusionEntry :=
  match outcome with
  | .ok _ => es
  | .error _ => []

theorem entriesIf_ok {α : Type} (a : α) (es : List FusionEntry) : entriesIf (.ok a) es = es := rfl

theorem entriesIf_error {α : Type} (failure : Failure) (es : List FusionEntry) :
    entriesIf (.error failure : Except Failure α) es = [] := rfl

theorem mem_of_mem_entriesIf {α : Type} {outcome : Except Failure α} {es : List FusionEntry}
    (h : entry ∈ entriesIf outcome es) : entry ∈ es := by
  cases outcome with
  | ok => exact h
  | error => cases h

theorem ne_fail_of_run {s : FileTree} (h : (a.run : StateM FileTree _).run t = (.ok (), s))
    (failure : Failure) : a ≠ .fail failure := by
  rintro rfl
  obtain ⟨hresult, -⟩ := Prod.mk.inj h
  cases hresult

theorem error_ne_io {α β : Type} {failure : Failure}
    (h : (.error failure : Except Failure α) ≠ .error .io) :
    (.error failure : Except Failure β) ≠ .error .io :=
  fun heq => h (congrArg Except.error (Except.error.inj heq))

/-- Other actions do not write in the place of the header. -/
theorem FusesLast.not_writesAt (hf : FusesLast home header? (a :: rest))
    (hheader : header ∈ header?) (hentry : a.entry? = none) :
    ¬ a.WritesAt home (header.place home) := by
  cases a with
  | createFolder | fail => exact not_false
  | write path content => exact hf.alone header hheader _ List.mem_cons_self rfl
  | register path entry => cases hentry

theorem Action.sameFile_run {result : Except Failure Unit}
    (h : (a.run : StateM FileTree _).run t = (result, t'))
    (hf : FusesLast t.home header? (a :: rest)) (hheader : header ∈ header?)
    (hentry : a.entry? = none) : t.SameFile (header.place t.home) t' :=
  fun content => ((leads_run h).kept _ content (hf.not_writesAt hheader hentry)).symm

/-- One action merges what it adds, if it is possible. -/
theorem Action.fuses_run {result : Except Failure Unit}
    (h : (a.run : StateM FileTree _).run t = (result, t')) (hio : result ≠ .error .io)
    (hf : FusesLast t.home header? (a :: rest)) (hheader : header ∈ header?) :
    t.Fuses (header.place t.home) t' (entriesIf result a.entry?.toList) := by
  have hkept (hentry : a.entry? = none) :
      t.Fuses (header.place t.home) t' (entriesIf result a.entry?.toList) := by
    have hnil : entriesIf result a.entry?.toList = [] := by
      rw [hentry]
      cases result <;> rfl
    rw [hnil]
    exact .nothing (sameFile_run h hf hheader hentry)
  cases a with
  | createFolder | fail | write => exact hkept rfl
  | register path entry =>
    obtain rfl : path = header := Option.mem_unique (hf.mem path entry List.mem_cons_self) hheader
    obtain ⟨text, htext, ⟨failure, -, rfl, rfl, -⟩ | ⟨merged, hmerge, rfl, hread⟩⟩ :=
      of_run_registerProxy h hio
    · exact .nothing (.refl _ _)
    · have hhome : t'.home = t.home := (Action.leads_run h).home
      refine .merged (List.cons_ne_nil entry []) htext ?_
        (hhome ▸ (FileTree.read_eq_ok_iff.1 hread).2)
      change [entry].foldlM Fusion.merge text = _
      rw [List.foldlM_cons, hmerge]
      rfl

/-- The actions of a class merge what they add, if none of them fails. -/
theorem fuses_runActions {written : List Path} {outcome : Except Failure (List Path)}
    (h : (runActions written actions : StateM FileTree _).run t = (outcome, t'))
    (hio : outcome ≠ .error .io) (hf : FusesLast t.home header? actions)
    (hheader : header ∈ header?) :
    t.Fuses (header.place t.home) t' (entriesIf outcome (actions.filterMap Action.entry?)) := by
  induction actions generalizing t written with
  | nil =>
    obtain ⟨rfl, rfl⟩ := Prod.mk.inj h
    exact .nothing (.refl _ _)
  | cons a rest ih =>
    rcases runActions_cons h with ⟨s, ha, hrest⟩ | ⟨failure, ha, rfl⟩
    · have hl := Action.leads_run ha
      have hfirst := Action.fuses_run ha nofun hf hheader
      have hf' := hf.of_cons (ne_fail_of_run ha)
      rw [← hl.home] at hf'
      have hlater := ih hrest hf'
      rw [hl.home] at hlater
      have hall := hfirst.trans hlater hl
      cases outcome with
      | ok files =>
        rw [entriesIf_ok, ← List.singleton_append, List.filterMap_append]
        exact hall
      | error failure =>
        -- something is carried out after the first action, so that this one adds nothing
        have hentry : a.entry? = none := by
          cases rest with
          | nil =>
            obtain ⟨herror, -⟩ := Prod.mk.inj hrest
            cases herror
          | cons b rest => exact (List.pairwise_cons.1 hf.last).1 b List.mem_cons_self
        rw [hentry] at hall
        exact hall
    · exact Action.fuses_run ha (error_ne_io hio) hf hheader

/-! ### What a list of classes does to the header -/

/-- No class has failed because files or folders could not be accessed. -/
def BatchReport.HadAccess (r : BatchReport) : Prop := ∀ failed ∈ r.failures, failed.2 ≠ .io

instance (r : BatchReport) : Decidable r.HadAccess :=
  inferInstanceAs (Decidable (∀ failed ∈ r.failures, failed.2 ≠ .io))

/-- The classes of a list without those that fail when they are generated one after the other. -/
def succeeding (config : Config) (kinds : List OutputKind) (out : Path) :
    FileTree → List ClassModel → List ClassModel
  | _, [] => []
  | t, c :: rest =>
    match (writeClass config kinds out c : StateM FileTree _).run t with
    | (.ok _, t') => c :: succeeding config kinds out t' rest
    | (.error _, t') => succeeding config kinds out t' rest

variable {config : Config} {kinds : List OutputKind} {out : Path} {classes : List ClassModel}
  {c : ClassModel} {report final : BatchReport} {s : FileTree}

theorem succeeding_cons_of_ok {files : List Path}
    (h : (writeClass config kinds out c : StateM FileTree _).run t = (.ok files, s)) :
    succeeding config kinds out t (c :: classes) = c :: succeeding config kinds out s classes := by
  rw [succeeding, h]

theorem succeeding_cons_of_error {failure : Failure}
    (h : (writeClass config kinds out c : StateM FileTree _).run t = (.error failure, s)) :
    succeeding config kinds out t (c :: classes) = succeeding config kinds out s classes := by
  rw [succeeding, h]

theorem succeeding_sublist (t : FileTree) (classes : List ClassModel) :
    (succeeding config kinds out t classes).Sublist classes := by
  induction classes generalizing t with
  | nil => exact List.Sublist.refl []
  | cons c rest ih =>
    rw [succeeding]
    split
    · exact (ih _).cons_cons c
    · exact (ih _).cons c

theorem BatchReport.subset_failures_add (report : BatchReport) (name : String)
    (outcome : Except Failure (List Path)) :
    report.failures ⊆ (report.add name outcome).failures := by
  cases outcome with
  | ok files => exact List.Subset.refl report.failures
  | error failure => exact List.subset_append_left report.failures _

/-- If no class has failed for lack of access, neither has a given one. -/
theorem ne_io_of_processFrom {name : String} {outcome : Except Failure (List Path)}
    (h : (processFrom (report.add name outcome) config kinds out classes :
      StateM FileTree _).run t = (final, t')) (hio : final.HadAccess) :
    outcome ≠ .error .io := by
  rintro rfl
  have hsub := subset_of_processFrom BatchReport.failures BatchReport.subset_failures_add h
  exact hio (name, .io) (hsub (List.mem_append_right report.failures List.mem_cons_self)) rfl

theorem Config.FusionIsAlone.of_subset {others : List ClassModel}
    (h : config.FusionIsAlone kinds out home classes) (hsub : others ⊆ classes) :
    config.FusionIsAlone kinds out home others :=
  fun header hheader c hc => h header hheader c (hsub hc)

/-- A class merges what it adds, unless it fails. -/
theorem fuses_writeClass {outcome : Except Failure (List Path)}
    (h : (writeClass config kinds out c : StateM FileTree _).run t = (outcome, t'))
    (hio : outcome ≠ .error .io) (hf : config.FusionIsAlone kinds out t.home classes)
    (hc : c ∈ classes) (hheader : header ∈ config.fusionPath? out) :
    t.Fuses (header.place t.home) t' (entriesIf outcome (config.entries kinds out c)) := by
  rw [Config.entries]
  exact fuses_runActions h hio (fusesLast_classActions hf hc) hheader

/-- A list of classes merges what those of them add that do not fail. -/
theorem fuses_processFrom
    (h : (processFrom report config kinds out classes : StateM FileTree _).run t = (final, t'))
    (hio : final.HadAccess) (hf : config.FusionIsAlone kinds out t.home classes)
    (hheader : header ∈ config.fusionPath? out) :
    t.Fuses (header.place t.home) t'
      ((succeeding config kinds out t classes).flatMap (config.entries kinds out)) := by
  induction classes generalizing t report with
  | nil =>
    obtain ⟨-, rfl⟩ := Prod.mk.inj h
    exact .nothing (.refl _ _)
  | cons c rest ih =>
    obtain ⟨outcome, s, hc, hrest⟩ := processFrom_cons h
    have hl := leads_runActions hc
    have hfirst :=
      fuses_writeClass hc (ne_io_of_processFrom hrest hio) hf List.mem_cons_self hheader
    have hf' := hf.of_subset (List.subset_cons_self c rest)
    rw [← hl.home] at hf'
    have hlater := ih hrest hf'
    rw [hl.home] at hlater
    have hall := hfirst.trans hlater hl
    cases outcome with
    | ok files =>
      rw [entriesIf_ok] at hall
      rw [succeeding_cons_of_ok hc, List.flatMap_cons]
      exact hall
    | error failure =>
      rw [entriesIf_error, List.nil_append] at hall
      rw [succeeding_cons_of_error hc]
      exact hall

end JniBindings
