import JniBindings.Proofs.Text.Joined
import JniBindings.Proofs.Text.Marker
import JniBindings.Text.Blank
/-!
# Lines and white space

Writing lines with a line feed after each and cutting the text into lines again gives the same
lines, as long as none of them holds a line feed or ends in a carriage return. White space around a
line is taken off by `trimList`, and nothing else is.
-/

namespace JniBindings.Text

/-- A line that can be read back once it has been written. -/
def IsLine (s : List Char) : Prop := '\n' ∉ s ∧ s.getLast? ≠ some '\r'

instance (s : List Char) : Decidable (IsLine s) := inferInstanceAs (Decidable (_ ∧ _))

/-- Lines with a line feed after each. -/
def unlines (ls : List (List Char)) : List Char := ls.flatMap (· ++ ['\n'])

theorem unlines_append (ls ms : List (List Char)) : unlines (ls ++ ms) = unlines ls ++ unlines ms :=
  List.flatMap_append

theorem toList_concat_lines {α : Type} (line : α → String) (xs : List α) :
    (concat (xs.map fun x => line x ++ "\n")).toList
      = unlines (xs.map fun x => (line x).toList) := by
  rw [toList_concat, unlines, List.flatMap_map, List.flatMap_map]
  simp only [String.toList_append]
  rfl

theorem not_mem_unlines {c : Char} (hc : c ≠ '\n') {ls : List (List Char)} (h : ∀ l ∈ ls, c ∉ l) :
    c ∉ unlines ls := by
  intro hmem
  obtain ⟨l, hl, hmem⟩ := List.mem_flatMap.1 hmem
  rcases List.mem_append.1 hmem with hmem | hmem
  · exact h l hl hmem
  · exact hc (List.mem_singleton.1 hmem)

/-! ### Lines -/

theorem lines_cons_of_ne {c : Char} {s : List Char} (hn : c ≠ '\n')
    (hr : c = '\r' → s.head? ≠ some '\n') :
    lines (c :: s) = match lines s with
      | [] => [[c]]
      | line :: others => (c :: line) :: others := by
  rw [lines.eq_def]
  split
  · next h => cases h
  · next h => exact absurd (List.cons.inj h).1 hn
  · next rest h =>
    obtain ⟨rfl, rfl⟩ := List.cons.inj h
    exact absurd rfl (hr rfl)
  · next d rest _ _ h =>
    obtain ⟨rfl, rfl⟩ := List.cons.inj h
    rfl

theorem IsLine.of_cons {c : Char} {s : List Char} (h : IsLine (c :: s)) : IsLine s := by
  refine ⟨fun hs => h.1 (List.mem_cons_of_mem c hs), fun hs => h.2 ?_⟩
  rw [List.getLast?_cons, hs]
  rfl

theorem lines_append_newline {line : List Char} (h : IsLine line) (rest : List Char) :
    lines (line ++ '\n' :: rest) = line :: lines rest := by
  induction line with
  | nil => rfl
  | cons c line ih =>
    have hc : c ≠ '\n' := fun e => h.1 (e ▸ List.mem_cons_self)
    have hr : c = '\r' → (line ++ '\n' :: rest).head? ≠ some '\n' := by
      rintro rfl
      cases line with
      | nil => exact absurd rfl h.2
      | cons d line =>
        have hd : d ≠ '\n' := fun e => h.of_cons.1 (e ▸ List.mem_cons_self)
        simpa using hd
    rw [List.cons_append, lines_cons_of_ne hc hr, ih h.of_cons]

/-- Lines that have been written are read back. -/
theorem lines_unlines_append {ls : List (List Char)} (h : ∀ l ∈ ls, IsLine l)
    (rest : List Char) : lines (unlines ls ++ rest) = ls ++ lines rest := by
  induction ls with
  | nil => rfl
  | cons l ls ih =>
    have hl := lines_append_newline (h l List.mem_cons_self) (unlines ls ++ rest)
    rw [ih fun m hm => h m (List.mem_cons_of_mem l hm)] at hl
    simpa [unlines] using hl

theorem newline_not_mem_of_mem_lines {s line : List Char} (h : line ∈ lines s) : '\n' ∉ line := by
  fun_induction lines s generalizing line with
  | case1 => simp at h
  | case2 rest ih | case3 rest ih =>
    rcases List.mem_cons.1 h with rfl | h
    · exact List.not_mem_nil
    · exact ih h
  | case4 c rest hn _ hnil ih =>
    obtain rfl := List.mem_singleton.1 h
    simpa using Ne.symm hn
  | case5 c rest hn _ first others hcons ih =>
    rcases List.mem_cons.1 h with rfl | h
    · have hfirst : '\n' ∉ first := ih (hcons ▸ List.mem_cons_self)
      simp [Ne.symm hn, hfirst]
    · exact ih (hcons ▸ List.mem_cons_of_mem first h)

theorem prefix_of_lines {s line : List Char} {others : List (List Char)}
    (h : lines s = line :: others) : line <+: s := by
  fun_induction lines s generalizing line others with
  | case1 => cases h
  | case2 rest ih | case3 rest ih =>
    obtain ⟨rfl, -⟩ := List.cons.inj h
    exact List.nil_prefix
  | case4 c rest _ _ hnil ih =>
    obtain ⟨rfl, -⟩ := List.cons.inj h
    exact List.prefix_append [c] rest
  | case5 c rest _ _ first others' hcons ih =>
    obtain ⟨rfl, -⟩ := List.cons.inj h
    exact (List.prefix_cons_inj c).2 (ih hcons)

/-- A line is part of its text. -/
theorem infix_of_mem_lines {s line : List Char} (h : line ∈ lines s) : line <:+: s := by
  fun_induction lines s generalizing line with
  | case1 => exact absurd h List.not_mem_nil
  | case2 rest ih =>
    rcases List.mem_cons.1 h with rfl | h
    · exact List.nil_infix
    · exact List.infix_cons (ih h)
  | case3 rest ih =>
    rcases List.mem_cons.1 h with rfl | h
    · exact List.nil_infix
    · exact List.infix_cons (List.infix_cons (ih h))
  | case4 c rest _ _ hnil ih =>
    obtain rfl := List.mem_singleton.1 h
    exact (List.prefix_append [c] rest).isInfix
  | case5 c rest _ _ first others hcons ih =>
    rcases List.mem_cons.1 h with rfl | h
    · exact ((List.prefix_cons_inj c).2 (prefix_of_lines hcons)).isInfix
    · exact List.infix_cons (ih (hcons ▸ List.mem_cons_of_mem first h))

/-- A marker without line feed is not found in lines that lack it. -/
theorem skipped_unlines {marker : List Char} (hn : '\n' ∉ marker) {ls : List (List Char)}
    (h : ∀ l ∈ ls, lacks marker l) : Skipped marker (unlines ls) :=
  Skipped.flatMap fun l hl => skipped_append_singleton hn (h l hl)

/-! ### White space -/

/-- The ends of a text are not blank. -/
def IsTight (s : List Char) : Prop :=
  (∀ c, s.head? = some c → isBlank c = false) ∧ ∀ c, s.getLast? = some c → isBlank c = false

theorem trimEndList_of_getLast? {s : List Char}
    (h : ∀ c, s.getLast? = some c → isBlank c = false) : trimEndList s = s := by
  rw [trimEndList]
  cases hs : s.reverse with
  | nil => simpa using hs.symm
  | cons c rest =>
    have hc : isBlank c = false := h c (by rw [← List.head?_reverse, hs]; rfl)
    rw [List.dropWhile_cons_of_neg (by simp [hc]), ← hs, List.reverse_reverse]

theorem trimList_append {blanks s : List Char} (hb : ∀ c ∈ blanks, isBlank c)
    (hs : IsTight s) : trimList (blanks ++ s) = s := by
  have hdrop : (blanks ++ s).dropWhile isBlank = s := by
    rw [List.dropWhile_append_of_pos hb]
    cases s with
    | nil => rfl
    | cons c s => exact List.dropWhile_cons_of_neg (by simp [hs.1 c rfl])
  rw [trimList, hdrop, trimEndList_of_getLast? hs.2]

theorem trimEndList_append {blanks s : List Char} (hb : ∀ c ∈ blanks, isBlank c) :
    trimEndList (s ++ blanks) = trimEndList s := by
  have hreverse : ∀ c ∈ blanks.reverse, isBlank c := fun c hc => hb c (List.mem_reverse.1 hc)
  rw [trimEndList, List.reverse_append, List.dropWhile_append_of_pos hreverse]
  rfl

theorem trimList_surrounded {before s after : List Char} (hb : ∀ c ∈ before, isBlank c)
    (ha : ∀ c ∈ after, isBlank c) (hne : s ≠ []) (hs : IsTight s) :
    trimList (before ++ (s ++ after)) = s := by
  have hdrop : (before ++ (s ++ after)).dropWhile isBlank = s ++ after := by
    rw [List.dropWhile_append_of_pos hb]
    cases s with
    | nil => exact absurd rfl hne
    | cons c s => exact List.dropWhile_cons_of_neg (by simp [hs.1 c rfl])
  rw [trimList, hdrop, trimEndList_append ha, trimEndList_of_getLast? hs.2]

theorem trimList_of_isTight {s : List Char} (hs : IsTight s) : trimList s = s :=
  trimList_append (fun _ hc => absurd hc List.not_mem_nil) hs

/-- Nothing but white space is taken off, and that from both ends. -/
theorem exists_eq_append_trimList (s : List Char) :
    ∃ before after, (∀ c ∈ before, isBlank c) ∧ s = before ++ (trimList s ++ after) := by
  refine ⟨s.takeWhile isBlank, ((s.dropWhile isBlank).reverse.takeWhile isBlank).reverse,
    fun c hc => List.all_eq_true.1 List.all_takeWhile c hc, ?_⟩
  rw [trimList, trimEndList, ← List.reverse_append, List.takeWhile_append_dropWhile,
    List.reverse_reverse, List.takeWhile_append_dropWhile]

/-- A character that is not blank stays, with all that is in front of it. -/
theorem trimEndList_append_cons {c : Char} (hc : isBlank c = false) (s rest : List Char) :
    trimEndList (s ++ c :: rest) = s ++ c :: trimEndList rest := by
  have hreverse : (s ++ c :: rest).reverse = rest.reverse ++ c :: s.reverse := by simp
  have hkept : (c :: s.reverse).dropWhile isBlank = c :: s.reverse :=
    List.dropWhile_cons_of_neg (by simp [hc])
  rw [trimEndList, trimEndList, hreverse, List.dropWhile_append, hkept]
  split
  · next h =>
    rw [List.isEmpty_iff.1 h]
    simp
  · simp

theorem infix_trimList (s : List Char) : trimList s <:+: s := by
  obtain ⟨before, after, -, hs⟩ := exists_eq_append_trimList s
  exact ⟨before, after, by rw [List.append_assoc, ← hs]⟩

end JniBindings.Text
