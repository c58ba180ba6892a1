import JniBindings.Fusion
import JniBindings.Proofs.Namespace
/-!
# Lines of the fusion header

A line of a fusion header includes a file, or is a term. What is written for a file name or a term
(`includeLine`, `termLine`) is read back as that name or term, and what is read from any line at
all is a name or term that can be written.
-/

namespace JniBindings

/-- A file name that can stand in a fusion header: in quotes, on one line, and without the marker
in front of the terms. -/
structure IsHeaderName (name : String) : Prop where
  ne_nil : name.toList ≠ []
  no_quote : '"' ∉ name.toList
  no_newline : '\n' ∉ name.toList
  no_marker : ¬ Fusion.beginMarker.toList <:+: name.toList

theorem isHeaderName_append_ending {s : String} (h : ∀ c ∈ s.toList, isWordChar c) :
    IsHeaderName (s ++ ".h") := by
  have hnot {c : Char} (hword : isWordChar c = false) (hdot : c ∉ ".h".toList) :
      c ∉ (s ++ ".h").toList := by
    rw [String.toList_append, List.mem_append, not_or]
    refine ⟨fun hmem => ?_, hdot⟩
    rw [h c hmem] at hword
    cases hword
  exact {
    ne_nil := by simp
    no_quote := hnot (by decide) (by decide)
    no_newline := hnot (by decide) (by decide)
    no_marker := fun hmarker =>
      hnot (by decide : isWordChar '/' = false) (by decide) (hmarker.subset (by decide)) }

/-- A term that can stand in a fusion header: its names are words. -/
def FusionTerm.IsWritable (t : FusionTerm) : Prop :=
  IsWord t.className ∧
    ∃ segments, t.namespacePath = Text.joinWith "::" segments ∧ ∀ s ∈ segments, IsWord s

namespace Fusion

/-! ### Files -/

theorem toList_includeLine (name : String) :
    (includeLine name).toList = "#include".toList ++ (' ' :: '"' :: name.toList) ++ ['"'] := by
  simp [includeLine, Cpp.quoted]

theorem isTight_includeLine (name : String) : Text.IsTight (includeLine name).toList := by
  rw [toList_includeLine]
  constructor
  · intro c hc
    obtain rfl : '#' = c := by simpa using hc
    decide
  · intro c hc
    rw [List.getLast?_concat] at hc
    obtain rfl : '"' = c := Option.some.inj hc
    decide

theorem isLine_includeLine {name : String} (h : '\n' ∉ name.toList) :
    Text.IsLine (includeLine name).toList := by
  rw [toList_includeLine]
  constructor
  · simpa using h
  · rw [List.getLast?_concat]
    decide

/-- A name in quotes is read whatever follows it. -/
theorem includedName?_append {name : String} (hne : name.toList ≠ []) (hq : '"' ∉ name.toList)
    {between : List Char} (hb : ∀ c ∈ between, Text.isBlank c) (after : List Char) :
    includedName? ("#include".toList ++ (between ++ '"' :: (name.toList ++ '"' :: after)))
      = some name := by
  have hblank : (between ++ '"' :: (name.toList ++ '"' :: after)).dropWhile Text.isBlank
      = '"' :: (name.toList ++ '"' :: after) := by
    rw [List.dropWhile_append_of_pos hb]
    exact List.dropWhile_cons_of_neg (by decide)
  rw [includedName?, Text.dropStart?_append, Option.bind_eq_bind, Option.bind_some, hblank]
  dsimp only
  rw [Text.takeWhile_ne_append_cons hq, Text.dropWhile_ne_append_cons hq]
  simp [hne]

theorem includedName?_includeLine {name : String} (hne : name.toList ≠ [])
    (hq : '"' ∉ name.toList) : includedName? (includeLine name).toList = some name := by
  have hblank : ∀ c ∈ [' '], Text.isBlank c := List.forall_mem_singleton.2 (by decide)
  rw [toList_includeLine, List.append_assoc]
  exact includedName?_append hne hq hblank []

/-- Only names in quotes are read. -/
theorem exists_of_includedName? {line : List Char} {name : String}
    (h : includedName? line = some name) :
    name.toList ≠ [] ∧ '"' ∉ name.toList ∧ ∃ between after, (∀ c ∈ between, Text.isBlank c)
      ∧ line = "#include".toList ++ (between ++ '"' :: (name.toList ++ '"' :: after)) := by
  rw [includedName?] at h
  obtain ⟨rest, hrest, hname⟩ := Option.bind_eq_some_iff.1 h
  clear h
  obtain rfl := Text.dropStart?_eq_some_iff.1 hrest
  cases hd : rest.dropWhile Text.isBlank with
  | nil =>
    rw [hd] at hname
    cases hname
  | cons c quoted =>
    rw [hd] at hname
    simp only [Option.ite_none_right_eq_some, Bool.and_eq_true, Bool.not_eq_true',
      List.isEmpty_eq_false_iff, decide_eq_true_eq] at hname
    obtain ⟨⟨⟨rfl, hne⟩, hclosed⟩, hname⟩ := hname
    obtain rfl := Option.some.inj hname
    obtain ⟨d, after, hafter⟩ := List.exists_cons_of_ne_nil hclosed
    have hhead := List.head?_dropWhile_not (· ≠ '"') quoted
    rw [hafter] at hhead
    obtain rfl : d = '"' := by simpa using hhead
    rw [String.toList_ofList]
    refine ⟨hne, Text.not_mem_takeWhile_ne '"' quoted, rest.takeWhile Text.isBlank, after,
      fun c hc => List.all_eq_true.1 List.all_takeWhile c hc, ?_⟩
    rw [← hafter, List.takeWhile_append_dropWhile, ← hd, List.takeWhile_append_dropWhile]

/-! ### Terms -/

theorem call_eq_of_path {t : FusionTerm} {segments : List String}
    (hpath : t.namespacePath = Text.joinWith "::" segments) (h : ∀ s ∈ segments, IsWord s) :
    FusionTerm.call t
      = "::" ++ Text.joinWith "::" (segments ++ [t.className, initName]) ++ "(env)" := by
  have hjoin := Text.joinWith_append "::" (List.concat_ne_nil t.className segments)
    (List.cons_ne_nil initName [])
  rw [List.append_assoc, List.singleton_append, Text.joinWith_singleton] at hjoin
  rw [FusionTerm.call, hpath, Namespace.ofText_joinWith h, Namespace.qualify_eq_joinWith, hjoin]
  simp only [String.append_assoc]

theorem dropEnd?_append (ending s : List Char) : dropEnd? ending (s ++ ending) = some s := by
  rw [dropEnd?, List.reverse_append, Text.dropStart?_append, Option.map_some, List.reverse_reverse]

/-- A path of words is read from the line that calls it. -/
theorem calledPath?_append {path : List String} (hne : path ≠ []) (h : ∀ s ∈ path, IsWord s) :
    calledPath? ("&& ::" ++ Text.joinWith "::" path ++ "(env)").toList = some path := by
  have hcolon : ∀ s ∈ path, ':' ∉ s.toList := fun s hs => (h s hs).not_mem (by decide)
  have hline : ("&& ::" ++ Text.joinWith "::" path ++ "(env)").toList
      = "&&".toList ++ ([' '] ++ ("::".toList
        ++ ((Text.joinWith "::" path).toList ++ "(env)".toList))) := by simp
  have hblank (s : List Char) : ([' '] ++ ("::".toList ++ s)).dropWhile Text.isBlank
      = "::".toList ++ s := rfl
  have htrim (s : List Char) :
      Text.trimEndList (s ++ "(env)".toList) = s ++ "(env)".toList := by
    apply Text.trimEndList_of_getLast?
    intro c hc
    obtain rfl : ')' = c := by simpa [List.getLast?_append] using hc
    decide
  have hall : (path.map String.toList).all fun s => !s.isEmpty && s.all isWordChar := by
    simp only [List.all_map, List.all_eq_true]
    intro s hs
    simp [(h s hs).1, (h s hs).2]
  rw [calledPath?, hline, Text.dropStart?_append, Option.bind_eq_bind, Option.bind_some, hblank]
  dsimp only
  rw [Text.dropStart?_append, Option.getD_some, htrim, dropEnd?_append, Option.bind_some,
    Namespace.parts_joinWith hne hcolon, if_pos hall, List.map_map]
  simp [Function.comp_def]

theorem isWord_of_calledPath? {line : List Char} {path : List String}
    (h : calledPath? line = some path) : ∀ s ∈ path, IsWord s := by
  rw [calledPath?] at h
  obtain ⟨rest, -, h⟩ := Option.bind_eq_some_iff.1 h
  obtain ⟨called, -, h⟩ := Option.bind_eq_some_iff.1 h
  rw [Option.ite_none_right_eq_some, List.all_eq_true] at h
  obtain ⟨hall, h⟩ := h
  obtain rfl := Option.some.inj h
  intro s hs
  obtain ⟨part, hpart, rfl⟩ := List.mem_map.1 hs
  simpa [IsWord] using hall part hpart

/-- The path that a term calls, its names being words. -/
theorem exists_path_of_isWritable {t : FusionTerm} (h : t.IsWritable) :
    ∃ segments, t.namespacePath = Text.joinWith "::" segments
      ∧ (∀ s ∈ segments ++ [t.className, initName], IsWord s)
      ∧ termLine t
        = "&& ::" ++ Text.joinWith "::" (segments ++ [t.className, initName]) ++ "(env)" := by
  obtain ⟨hclass, segments, hpath, hsegments⟩ := h
  refine ⟨segments, hpath, fun s hs => ?_, ?_⟩
  · simp only [List.mem_append, List.mem_cons, List.not_mem_nil, or_false] at hs
    rcases hs with hs | rfl | rfl
    · exact hsegments s hs
    · exact hclass
    · decide
  · rw [termLine, call_eq_of_path hpath hsegments, ← String.append_assoc, ← String.append_assoc]
    rfl

/-- The characters with which a term is written, those of words apart. -/
def termMarks : List Char := ['&', ' ', ':', '(', ')']

theorem mem_termLine {t : FusionTerm} (h : t.IsWritable) {c : Char}
    (hc : c ∈ (termLine t).toList) : isWordChar c ∨ c ∈ termMarks := by
  have hstart : "&& ::".toList ⊆ termMarks := by simp [termMarks]
  have hcolons : "::".toList ⊆ termMarks := by simp [termMarks]
  have hend : "(env)".toList.all fun c => isWordChar c || termMarks.contains c := by decide
  obtain ⟨segments, -, hword, hline⟩ := exists_path_of_isWritable h
  simp only [hline, String.toList_append, List.mem_append] at hc
  rcases hc with (hc | hc) | hc
  · exact Or.inr (hstart hc)
  · rcases Text.mem_joinWith hc with hc | ⟨s, hs, hc⟩
    · exact Or.inr (hcolons hc)
    · exact Or.inl (List.all_eq_true.1 (hword s hs).2 c hc)
  · simpa using List.all_eq_true.1 hend c hc

theorem termOfLine_termLine {t : FusionTerm} (h : t.IsWritable) :
    termOfLine (termLine t).toList = .ok t := by
  obtain ⟨segments, hpath, hword, hline⟩ := exists_path_of_isWritable h
  rw [termOfLine, hline, calledPath?_append (by simp) hword]
  simp [← hpath]

theorem isWritable_of_termOfLine {line : List Char} {t : FusionTerm}
    (h : termOfLine line = .ok t) : t.IsWritable := by
  rw [termOfLine] at h
  split at h
  · next function className outer hpath =>
    obtain ⟨path, hcalled, hreverse⟩ := Option.map_eq_some_iff.1 hpath
    have hword : ∀ s ∈ function :: className :: outer, IsWord s := fun s hs =>
      isWord_of_calledPath? hcalled s (List.mem_reverse.1 (hreverse ▸ hs))
    split at h
    · obtain rfl := Except.ok.inj h
      exact ⟨hword className (by simp), outer.reverse, rfl, fun s hs =>
        hword s (by simp [List.mem_reverse.1 hs])⟩
    · cases h
  · cases h

end Fusion

end JniBindings
