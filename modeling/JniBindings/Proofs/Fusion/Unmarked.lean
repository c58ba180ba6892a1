import JniBindings.Proofs.Fusion.Merge
/-!
# Texts without marked lines

A text that does not hold the marker in front of the terms was not written as a fusion header, or
is no header yet. It is read all the same: it initialises nothing, but the files that its lines
include (`LinesInclude`) are taken over, each once and in order, and nothing else is. So the text
starts fresh just if it includes nothing, and a merge into it writes what a merge into no text
writes just if it includes nothing but the header that is merged (`startsFresh_iff`). The files stay
in front of all that is merged later (`foldlM_merge_eq_iff`).
-/

namespace JniBindings.Fusion

/-! ### Lines that include files -/

/-- A line names a file to be included: in quotes, with white space before and behind the directive,
and with anything behind the name. -/
def LineIncludes (line : List Char) (name : String) : Prop :=
  ∃ before between after, (∀ c ∈ before, Text.isBlank c) ∧ (∀ c ∈ between, Text.isBlank c)
    ∧ name.toList ≠ [] ∧ '"' ∉ name.toList
    ∧ line = before ++ ("#include".toList ++ (between ++ '"' :: (name.toList ++ '"' :: after)))

/-- The names of the files that lines include, in the order of the lines. -/
inductive LinesInclude : List (List Char) → List String → Prop
  | nil : LinesInclude [] []
  | skip {line : List Char} {lines : List (List Char)} {names : List String} :
      (∀ name, ¬ LineIncludes line name) → LinesInclude lines names →
        LinesInclude (line :: lines) names
  | cons {line : List Char} {name : String} {lines : List (List Char)} {names : List String} :
      LineIncludes line name → LinesInclude lines names →
        LinesInclude (line :: lines) (name :: names)

theorem includedName?_trimList_eq_some_iff {line : List Char} {name : String} :
    includedName? (Text.trimList line) = some name ↔ LineIncludes line name := by
  constructor
  · intro h
    obtain ⟨hne, hq, between, rest, hbetween, htrim⟩ := exists_of_includedName? h
    obtain ⟨before, after, hbefore, hline⟩ := Text.exists_eq_append_trimList line
    refine ⟨before, between, rest ++ after, hbefore, hbetween, hne, hq, ?_⟩
    rw [htrim] at hline
    simpa using hline
  · rintro ⟨before, between, after, hbefore, hbetween, hne, hq, rfl⟩
    have hdrop (s : List Char) : (before ++ ("#include".toList ++ s)).dropWhile Text.isBlank
        = "#include".toList ++ s := by
      rw [List.dropWhile_append_of_pos hbefore]
      exact List.dropWhile_cons_of_neg (by decide)
    -- the end is trimmed behind the closing quotation mark, so that the name stays as it is
    have hquote := Text.trimEndList_append_cons (show Text.isBlank '"' = false by decide)
      ("#include".toList ++ (between ++ '"' :: name.toList)) after
    simp only [List.append_assoc, List.cons_append] at hquote
    rw [Text.trimList, hdrop, hquote]
    exact includedName?_append hne hq hbetween (Text.trimEndList after)

theorem includedName?_trimList_eq_none_iff {line : List Char} :
    includedName? (Text.trimList line) = none ↔ ∀ name, ¬ LineIncludes line name := by
  simp only [Option.eq_none_iff_forall_ne_some, ne_eq, includedName?_trimList_eq_some_iff]

/-- Lines have exactly one list of names, the one that is read. -/
theorem linesInclude_iff {lines : List (List Char)} {names : List String} :
    LinesInclude lines names ↔ (lines.map Text.trimList).filterMap includedName? = names := by
  constructor
  · intro h
    induction h with
    | nil => rfl
    | skip hline _ ih =>
      rw [List.map_cons, List.filterMap_cons_none (includedName?_trimList_eq_none_iff.2 hline), ih]
    | cons hline _ ih =>
      rw [List.map_cons, List.filterMap_cons_some (includedName?_trimList_eq_some_iff.2 hline), ih]
  · rintro rfl
    induction lines with
    | nil => exact .nil
    | cons line lines ih =>
      rw [List.map_cons]
      cases hline : includedName? (Text.trimList line) with
      | none =>
        rw [List.filterMap_cons_none hline]
        exact .skip (includedName?_trimList_eq_none_iff.1 hline) ih
      | some name =>
        rw [List.filterMap_cons_some hline]
        exact .cons (includedName?_trimList_eq_some_iff.1 hline) ih

theorem exists_lineIncludes_of_mem {lines : List (List Char)} {names : List String}
    (h : LinesInclude lines names) {name : String} (hname : name ∈ names) :
    ∃ line ∈ lines, LineIncludes line name := by
  rw [← linesInclude_iff.1 h] at hname
  obtain ⟨trimmed, hmem, hread⟩ := List.mem_filterMap.1 hname
  obtain ⟨line, hline, rfl⟩ := List.mem_map.1 hmem
  exact ⟨line, hline, includedName?_trimList_eq_some_iff.1 hread⟩

/-- A file name is part of the text that includes it. -/
theorem infix_of_linesInclude {s : List Char} {names : List String}
    (h : LinesInclude (Text.lines s) names) {name : String} (hname : name ∈ names) :
    name.toList <:+: s := by
  obtain ⟨line, hline, before, between, after, -, -, -, -, rfl⟩ :=
    exists_lineIncludes_of_mem h hname
  refine List.IsInfix.trans ?_ (Text.infix_of_mem_lines hline)
  exact ⟨before ++ ("#include".toList ++ (between ++ ['"'])), '"' :: after, by simp⟩

/-! ### Lists without repetitions -/

section EraseDups

variable {α : Type} [DecidableEq α]

theorem nodup_eraseDups (xs : List α) : xs.eraseDups.Nodup := by
  rw [← foldl_addNew_eq_eraseDups]
  exact nodup_foldl_addNew List.nodup_nil xs

theorem filter_foldl_addNew (p : α → Bool) (seen xs : List α) :
    (xs.foldl addNew seen).filter p = (xs.filter p).foldl addNew (seen.filter p) := by
  induction xs generalizing seen with
  | nil => rfl
  | cons x xs ih =>
    rw [List.foldl_cons, ih]
    by_cases hp : p x
    · rw [List.filter_cons_of_pos hp, List.foldl_cons]
      congr 1
      by_cases hx : x ∈ seen <;> simp [addNew, hx, hp]
    · rw [List.filter_cons_of_neg hp]
      congr 1
      by_cases hx : x ∈ seen <;> simp [addNew, hx, hp]

theorem foldl_addNew_eraseDups (xs ys : List α) :
    ys.foldl addNew xs.eraseDups = (xs ++ ys).eraseDups := by
  rw [← foldl_addNew_eq_eraseDups xs, ← List.foldl_append, foldl_addNew_eq_eraseDups]

/-- Elements in front of a list change nothing if it has them at its start, in the same order. -/
theorem eraseDups_append_eq_iff {xs ys : List α} :
    (xs ++ ys).eraseDups = ys.eraseDups ↔ xs.eraseDups <+: ys.eraseDups := by
  have happend : (xs ++ ys).eraseDups
      = xs.eraseDups ++ ys.eraseDups.filter (· ∉ xs.eraseDups) := by
    rw [← foldl_addNew_eraseDups, foldl_addNew, ← foldl_addNew_eq_eraseDups ys, filter_foldl_addNew,
      List.filter_nil, foldl_addNew_eq_eraseDups]
  rw [happend]
  constructor
  · intro h
    exact ⟨_, h⟩
  · rintro ⟨rest, hrest⟩
    have hnew : ∀ y ∈ rest, y ∉ xs.eraseDups := fun y hy hmem =>
      (List.nodup_append.1 (hrest ▸ nodup_eraseDups ys)).2.2 y hmem y hy rfl
    rw [← hrest, List.filter_append, List.filter_eq_nil_iff.2 (by simp),
      List.filter_eq_self.2 (by simpa using hnew), List.nil_append]

theorem eraseDups_append_singleton_iff {xs : List α} {x : α} :
    (xs ++ [x]).eraseDups = [x] ↔ ∀ y ∈ xs, y = x := by
  constructor
  · intro h y hy
    have hmem : y ∈ (xs ++ [x]).eraseDups := List.mem_eraseDups.2 (List.mem_append_left _ hy)
    rwa [h, List.mem_singleton] at hmem
  · intro h
    have hperm : (xs ++ [x]).eraseDups.Perm [x] := by
      rw [List.perm_ext_iff_of_nodup (nodup_eraseDups _) (List.nodup_singleton x)]
      simpa using h
    exact List.perm_singleton.1 hperm

end EraseDups

/-! ### Reading and merging once -/

/-- The text is read as a header that includes and initialises nothing, and merging into it is
merging into no text. -/
def StartsFresh (content : String) : Prop :=
  parse content = .ok empty ∧ ∀ e, merge content e = merge "" e

/-- A text without the marker is read as the files that it includes. -/
theorem parse_of_linesInclude {content : String} (h : ¬ beginMarker.toList <:+: content.toList)
    {names : List String} (hnames : LinesInclude (Text.lines content.toList) names) :
    parse content = .ok ⟨names.eraseDups, []⟩ := by
  have hlacks := Text.lacks_of_not_infix h
  rw [Text.lacks, Option.isNone_iff_eq_none] at hlacks
  rw [parse, hlacks, ← linesInclude_iff.1 hnames, ← foldl_addNew_eq_eraseDups]
  rfl

theorem foldl_insert_eraseDups (names : List String) (es : List FusionEntry) :
    es.foldl insert ⟨names.eraseDups, []⟩
      = ⟨(names ++ es.map FusionEntry.header).eraseDups, (es.map termOf).eraseDups⟩ := by
  have hincludes := includes_foldl_insert ⟨names.eraseDups, []⟩ es
  have hterms := terms_foldl_insert ⟨names.eraseDups, []⟩ es
  rw [foldl_addNew_eraseDups] at hincludes
  rw [foldl_addNew_eq_eraseDups] at hterms
  rw [← hincludes, ← hterms]

theorem insert_eraseDups (names : List String) (e : FusionEntry) :
    insert ⟨names.eraseDups, []⟩ e = ⟨(names ++ [e.header]).eraseDups, [termOf e]⟩ :=
  foldl_insert_eraseDups names [e]

/-- No line is written with nothing in it, so that a single line is not made up of several. -/
theorem eq_singleton_of_unlines_eq {α : Type} (line : α → List Char) {xs : List α} {x : α}
    (hx : x ∈ xs) (h : Text.unlines (xs.map line) = Text.unlines ([x].map line)) : xs = [x] := by
  have hnil {ys : List α} (hys : (Text.unlines (ys.map line)).length = 0) : ys = [] := by
    cases ys with
    | nil => rfl
    | cons y ys => simp [Text.unlines] at hys
  obtain ⟨before, after, rfl⟩ := List.append_of_mem hx
  have hlength := congrArg List.length h
  rw [← List.singleton_append, List.map_append, List.map_append, Text.unlines_append,
    Text.unlines_append, List.length_append, List.length_append] at hlength
  have hbefore : before = [] := hnil (by omega)
  have hafter : after = [] := hnil (by omega)
  rw [hbefore, hafter]
  rfl

/-- Headers with the same terms differ in nothing but the lines that include files. -/
theorem unlines_includes_of_render_eq {f g : Fusion} (hterms : f.terms = g.terms)
    (h : f.render = g.render) :
    Text.unlines (f.includes.map fun name => (includeLine name).toList)
      = Text.unlines (g.includes.map fun name => (includeLine name).toList) := by
  have htext := congrArg String.toList h
  simp only [toList_render, frontLines, termLines, hterms, Text.unlines_append,
    List.append_assoc] at htext
  simpa only [List.append_cancel_right_eq, List.append_cancel_left_eq] using htext

/-- The entry may be one that is not read back, so the two texts are compared by their lines. -/
theorem merge_eq_merge_empty_iff {content : String} {names : List String}
    (h : parse content = .ok ⟨names.eraseDups, []⟩) (e : FusionEntry) :
    merge content e = merge "" e ↔ ∀ name ∈ names, name = e.header := by
  have hempty : empty.insert e = ⟨[e.header], [termOf e]⟩ := rfl
  rw [merge_of_parse h, merge_of_parse parse_empty, insert_eraseDups, hempty,
    ← eraseDups_append_singleton_iff]
  constructor
  · intro hmerge
    have hlines := unlines_includes_of_render_eq (by rfl) (Except.ok.inj hmerge)
    exact eq_singleton_of_unlines_eq (fun name => (includeLine name).toList) (by simp) hlines
  · intro hnames
    rw [hnames]

theorem startsFresh_iff_of_parse {content : String} {names : List String}
    (h : parse content = .ok ⟨names.eraseDups, []⟩) : StartsFresh content ↔ names = [] := by
  constructor
  · rintro ⟨hempty, -⟩
    have hnil : names.eraseDups = [] :=
      congrArg Fusion.includes (Except.ok.inj (h.symm.trans hempty))
    refine List.eq_nil_iff_forall_not_mem.2 fun name hname => ?_
    rw [← List.mem_eraseDups, hnil] at hname
    exact List.not_mem_nil hname
  · rintro rfl
    exact ⟨h, fun e => (merge_eq_merge_empty_iff h e).2 nofun⟩

/-- A text without the marker is always read. What is taken over from it are the files that its
lines include, each once and in the order of first occurrence, and no terms; a merge writes them in
front of the header that is merged. The text starts fresh just if it includes no file, and merging
an entry into it is merging the entry into no text just if it includes none but the header of the
entry. -/
theorem startsFresh_iff {content : String} (h : ¬ beginMarker.toList <:+: content.toList) :
    ∃ names, LinesInclude (Text.lines content.toList) names
      ∧ parse content = .ok ⟨names.eraseDups, []⟩
      ∧ (∀ e, merge content e = .ok (render ⟨(names ++ [e.header]).eraseDups, [termOf e]⟩)
        ∧ (merge content e = merge "" e ↔ ∀ name ∈ names, name = e.header))
      ∧ (StartsFresh content ↔ names = []) := by
  obtain ⟨names, hnames⟩ : ∃ names, LinesInclude (Text.lines content.toList) names :=
    ⟨_, linesInclude_iff.2 rfl⟩
  have hparse := parse_of_linesInclude h hnames
  refine ⟨names, hnames, hparse, fun e => ⟨?_, merge_eq_merge_empty_iff hparse e⟩,
    startsFresh_iff_of_parse hparse⟩
  rw [merge_of_parse hparse, insert_eraseDups]

/-- The text includes one file twice, and another one in angle brackets, which is not taken over. -/
theorem startsFresh_iff_repeatedInclude :
    ¬ beginMarker.toList
        <:+: "#include <jni.h>\n #include \"own.h\" // a\n#include\"own.h\"\nint x;".toList
      ∧ ¬ StartsFresh "#include <jni.h>\n #include \"own.h\" // a\n#include\"own.h\"\nint x;"
      ∧ merge "#include <jni.h>\n #include \"own.h\" // a\n#include\"own.h\"\nint x;"
          ⟨"a", "FooProxy", "a_FooProxy.h"⟩
        = .ok (render ⟨["own.h", "a_FooProxy.h"], [⟨"a", "FooProxy"⟩]⟩)
      ∧ merge "#include <jni.h>\n #include \"own.h\" // a\n#include\"own.h\"\nint x;"
          ⟨"a", "FooProxy", "own.h"⟩
        = merge "" ⟨"a", "FooProxy", "own.h"⟩ := by
  have hmarker : ¬ beginMarker.toList
      <:+: "#include <jni.h>\n #include \"own.h\" // a\n#include\"own.h\"\nint x;".toList := by
    decide +kernel
  obtain ⟨names, hnames, -, hmerge, hfresh⟩ := startsFresh_iff hmarker
  obtain rfl : ["own.h", "own.h"] = names :=
    Eq.trans (by decide +kernel) (linesInclude_iff.1 hnames)
  have hfoo := (hmerge ⟨"a", "FooProxy", "a_FooProxy.h"⟩).1
  have hown := (hmerge ⟨"a", "FooProxy", "own.h"⟩).2
  have herase : (["own.h", "own.h"] ++ ["a_FooProxy.h"]).eraseDups = ["own.h", "a_FooProxy.h"] := by
    decide
  rw [herase] at hfoo
  exact ⟨hmarker, fun hstarts => absurd (hfresh.1 hstarts) (by simp), hfoo, hown.2 (by simp)⟩

/-- A text of one line, which includes a file: the file is read and written into the header. -/
theorem exists_not_startsFresh :
    ∃ content e, ¬ beginMarker.toList <:+: content.toList
      ∧ parse content = .ok ⟨["own.h"], []⟩ ∧ parse content ≠ .ok empty
      ∧ merge content e ≠ merge "" e := by
  have hmarker : ¬ beginMarker.toList <:+: "#include \"own.h\"\n".toList := by decide +kernel
  have hparse : parse "#include \"own.h\"\n" = .ok ⟨["own.h"].eraseDups, []⟩ := by
    decide +kernel
  have hmerge := merge_eq_merge_empty_iff hparse ⟨"", "FooProxy", "FooProxy.h"⟩
  have herase : ["own.h"].eraseDups = ["own.h"] := by decide
  rw [herase] at hparse
  refine ⟨_, ⟨"", "FooProxy", "FooProxy.h"⟩, hmarker, hparse, fun hempty => ?_, fun hsame => ?_⟩
  · exact absurd (Except.ok.inj (hparse.symm.trans hempty)) (by decide)
  · exact absurd (hmerge.1 hsame "own.h" List.mem_cons_self) (by decide)

/-! ### Merging on and on -/

section Sequence

variable {content : String} (h : ¬ beginMarker.toList <:+: content.toList) {names : List String}
  (hnames : LinesInclude (Text.lines content.toList) names) {es : List FusionEntry} (hne : es ≠ [])
  (he : ∀ e ∈ es, e.IsWritable)

include h hnames

theorem isWritable_of_linesInclude : IsWritable ⟨names.eraseDups, []⟩ := by
  refine isWritable_of_parse (parse_of_linesInclude h hnames) fun name hname hmarker => h ?_
  exact hmarker.trans (infix_of_linesInclude hnames (List.mem_eraseDups.1 hname))

include he

theorem isWritable_append_of_linesInclude : IsWritable
    ⟨(names ++ es.map FusionEntry.header).eraseDups, (es.map termOf).eraseDups⟩ := by
  rw [← foldl_insert_eraseDups]
  exact isWritable_foldl_insert (isWritable_of_linesInclude h hnames) he

include hne

/-- The files that are taken over stay in front of those of all entries. -/
theorem foldlM_merge_of_linesInclude :
    es.foldlM merge content = .ok (render
      ⟨(names ++ es.map FusionEntry.header).eraseDups, (es.map termOf).eraseDups⟩) := by
  rw [← foldl_insert_eraseDups]
  exact foldlM_merge_eq_render (parse_of_linesInclude h hnames)
    (isWritable_of_linesInclude h hnames) hne he

/-- A sequence of merges does not show what has been taken over just if the files are the first that
the sequence brings along. -/
theorem foldlM_merge_eq_iff :
    es.foldlM merge content = es.foldlM merge ""
      ↔ names.eraseDups <+: (es.map FusionEntry.header).eraseDups := by
  have hnone : ¬ beginMarker.toList <:+: "".toList := by decide
  have hwritable := isWritable_append_of_linesInclude h hnames he
  have hfresh := isWritable_append_of_linesInclude hnone .nil he
  rw [foldlM_merge_of_linesInclude h hnames hne he, foldlM_merge_of_linesInclude hnone .nil hne he,
    Except.ok.injEq, ← eraseDups_append_eq_iff]
  constructor
  · intro hrender
    exact congrArg Fusion.includes (render_inj hwritable hfresh hrender)
  · intro hincludes
    rw [hincludes, List.nil_append]

end Sequence

end JniBindings.Fusion
