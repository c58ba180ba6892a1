import JniBindings.Text.Segments
/-!
# Joined texts

`joinWith` puts a separator between neighbours, and `concat` puts texts side by side. A joined text
is its first part with what stands behind it (`behindFirst`), and a separator in front of each other
part makes a concatenation of it (`joinWith_cons_eq_concat`). `Contains` says that a text stands in
another one.
-/

namespace JniBindings.Text

theorem joinWith_singleton (separator part : String) : joinWith separator [part] = part := rfl

theorem joinWith_cons_of_ne_nil (separator part : String) {parts : List String} (h : parts ≠ []) :
    joinWith separator (part :: parts) = part ++ separator ++ joinWith separator parts := by
  cases parts with
  | nil => exact absurd rfl h
  | cons next parts => rfl

theorem joinWith_append (separator : String) {parts others : List String} (h : parts ≠ [])
    (ho : others ≠ []) : joinWith separator (parts ++ others)
      = joinWith separator parts ++ separator ++ joinWith separator others := by
  induction parts with
  | nil => exact absurd rfl h
  | cons part parts ih =>
    rw [List.cons_append, joinWith_cons_of_ne_nil separator part (by simp [ho])]
    cases parts with
    | nil => rfl
    | cons next parts =>
      rw [ih (List.cons_ne_nil next parts), joinWith_cons_of_ne_nil separator part (by simp)]
      simp only [String.append_assoc]

/-- What stands in front of the first part stands in front of the joined text. -/
theorem joinWith_append_cons (separator front part : String) (parts : List String) :
    joinWith separator ((front ++ part) :: parts)
      = front ++ joinWith separator (part :: parts) := by
  cases parts with
  | nil => rfl
  | cons next parts => simp [joinWith, String.append_assoc]

theorem mem_joinWith {separator : String} {parts : List String} {c : Char}
    (h : c ∈ (joinWith separator parts).toList) :
    c ∈ separator.toList ∨ ∃ part ∈ parts, c ∈ part.toList := by
  induction parts with
  | nil => simp [joinWith] at h
  | cons part parts ih =>
    cases parts with
    | nil => exact Or.inr ⟨part, List.mem_cons_self, h⟩
    | cons next parts =>
      rw [joinWith_cons_of_ne_nil separator part (List.cons_ne_nil next parts),
        String.toList_append, String.toList_append, List.mem_append, List.mem_append] at h
      rcases h with (h | h) | h
      · exact Or.inr ⟨part, List.mem_cons_self, h⟩
      · exact Or.inl h
      · rcases ih h with h | ⟨other, hother, h⟩
        · exact Or.inl h
        · exact Or.inr ⟨other, List.mem_cons_of_mem part hother, h⟩

/-! ### Concatenation -/

theorem toList_concat (ss : List String) : (concat ss).toList = ss.flatMap String.toList := by
  induction ss with
  | nil => rfl
  | cons s ss ih => rw [concat, String.toList_append, ih, List.flatMap_cons]

theorem concat_append (ss ts : List String) : concat (ss ++ ts) = concat ss ++ concat ts := by
  rw [← String.toList_inj, String.toList_append]
  simp only [toList_concat, List.flatMap_append]

theorem joinWith_cons_eq_concat (separator part : String) (parts : List String) :
    joinWith separator (part :: parts) = part ++ concat (parts.map (separator ++ ·)) := by
  induction parts generalizing part with
  | nil => simp [joinWith_singleton, concat]
  | cons next parts ih =>
    rw [joinWith_cons_of_ne_nil separator part (List.cons_ne_nil next parts), ih, List.map_cons]
    simp [concat, String.append_assoc]

/-! ### The first part -/

/-- What stands behind the first part of a joined text, given the other parts. -/
def behindFirst (separator : String) : List String → List Char
  | [] => []
  | part :: parts => separator.toList ++ (joinWith separator (part :: parts)).toList

theorem toList_joinWith_cons (separator part : String) (parts : List String) :
    (joinWith separator (part :: parts)).toList = part.toList ++ behindFirst separator parts := by
  cases parts with
  | nil => rw [joinWith_singleton, behindFirst, List.append_nil]
  | cons next parts =>
    rw [joinWith_cons_of_ne_nil separator part (List.cons_ne_nil next parts), behindFirst,
      String.toList_append, String.toList_append, List.append_assoc]

theorem joinWith_eq_of_behindFirst_eq {separator : String} (hne : separator.toList ≠ [])
    {parts others : List String} (h : behindFirst separator parts = behindFirst separator others) :
    joinWith separator parts = joinWith separator others := by
  cases parts with
  | nil =>
    cases others with
    | nil => rfl
    | cons other others => exact absurd (List.append_eq_nil_iff.1 h.symm).1 hne
  | cons part parts =>
    cases others with
    | nil => exact absurd (List.append_eq_nil_iff.1 h).1 hne
    | cons other others => exact String.toList_inj.1 (List.append_cancel_left h)

end JniBindings.Text

/-! ### Parts -/

namespace JniBindings

/-- A part stands somewhere in a text. -/
def Contains (part text : String) : Prop := ∃ front back, text = front ++ part ++ back

namespace Contains

variable {part s : String}

theorem refl (part : String) : Contains part part := ⟨"", "", by simp⟩

theorem before (h : Contains part s) (t : String) : Contains part (s ++ t) := by
  obtain ⟨front, back, rfl⟩ := h
  exact ⟨front, back ++ t, String.append_assoc⟩

theorem after (h : Contains part s) (t : String) : Contains part (t ++ s) := by
  obtain ⟨front, back, rfl⟩ := h
  exact ⟨t ++ front, back, by simp only [String.append_assoc]⟩

end Contains

end JniBindings
