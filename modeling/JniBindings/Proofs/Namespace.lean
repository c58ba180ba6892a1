import JniBindings.Namespace
import JniBindings.Proofs.Text.Joined
import JniBindings.Proofs.Text.Lines
import JniBindings.Proofs.Word
/-!
# Paths of namespaces

A path is made of words, with two colons between neighbours. Words hold no colon and no white space,
so a path is cut into the words that it was made of, and the namespace with that path is the one
with these words as segments.
-/

namespace JniBindings

namespace Namespace

/-- What the names of files begin with is made of the segments and of underscores. -/
theorem mem_fileStart {n : Namespace} {c : Char} (h : c ∈ n.fileStart.toList) :
    c = '_' ∨ ∃ segment ∈ n.segments, c ∈ segment.toList := by
  rw [fileStart, Text.toList_concat, List.flatMap_map, List.mem_flatMap] at h
  obtain ⟨segment, hsegment, hc⟩ := h
  rw [String.toList_append, List.mem_append] at hc
  rcases hc with hc | hc
  · exact Or.inr ⟨segment, hsegment, hc⟩
  · exact Or.inl (by simpa using hc)

theorem isWordChar_of_mem_fileStart {n : Namespace} (h : ∀ s ∈ n.segments, IsWord s) {c : Char}
    (hc : c ∈ n.fileStart.toList) : isWordChar c := by
  rcases mem_fileStart hc with rfl | ⟨segment, hsegment, hc⟩
  · decide
  · exact List.all_eq_true.1 (h segment hsegment).2 c hc

theorem parts_of_not_mem {s : List Char} (h : ':' ∉ s) : parts s = [s] := by
  induction s with
  | nil => rfl
  | cons c s ih =>
    rw [List.mem_cons, not_or] at h
    rw [parts, ih h.2]
    · rintro rest rfl
      exact absurd rfl h.1

theorem parts_append_colons {s : List Char} (h : ':' ∉ s) (rest : List Char) :
    parts (s ++ ':' :: ':' :: rest) = s :: parts rest := by
  induction s with
  | nil => rfl
  | cons c s ih =>
    rw [List.mem_cons, not_or] at h
    rw [List.cons_append, parts, ih h.2]
    · rintro rest rfl
      exact absurd rfl h.1

/-- A path is cut into the segments that it was made of. -/
theorem parts_joinWith {segments : List String} (hne : segments ≠ [])
    (h : ∀ s ∈ segments, ':' ∉ s.toList) :
    parts (Text.joinWith "::" segments).toList = segments.map String.toList := by
  induction segments with
  | nil => exact absurd rfl hne
  | cons s segments ih =>
    have hs := h s List.mem_cons_self
    cases segments with
    | nil => exact parts_of_not_mem hs
    | cons t segments =>
      have hrest := ih (List.cons_ne_nil t segments) fun u hu => h u (List.mem_cons_of_mem s hu)
      rw [Text.joinWith_cons_of_ne_nil "::" s (List.cons_ne_nil t segments), String.toList_append,
        String.toList_append, List.append_assoc]
      exact (parts_append_colons hs _).trans (congrArg (s.toList :: ·) hrest)

theorem trimList_of_isWord {s : String} (h : IsWord s) : Text.trimList s.toList = s.toList := by
  have hblank : ∀ c ∈ s.toList, Text.isBlank c = false := fun c hc =>
    isBlank_eq_false_of_isWordChar (List.all_eq_true.1 h.2 c hc)
  exact Text.trimList_of_isTight ⟨fun c hc => hblank c (List.mem_of_mem_head? hc),
    fun c hc => hblank c (List.mem_of_getLast? hc)⟩

/-- Words are segments as they are. -/
theorem ofText_joinWith {segments : List String} (h : ∀ s ∈ segments, IsWord s) :
    ofText (Text.joinWith "::" segments) = ⟨segments⟩ := by
  cases segments with
  | nil => rfl
  | cons s segments =>
    have hcolon : ∀ t ∈ s :: segments, ':' ∉ t.toList := fun t ht => (h t ht).not_mem (by decide)
    rw [ofText, parts_joinWith (List.cons_ne_nil s segments) hcolon]
    generalize s :: segments = ts at h
    congr 1
    induction ts with
    | nil => rfl
    | cons t ts ih =>
      have ht := h t List.mem_cons_self
      have hsome : (if t.toList.isEmpty then none else some (String.ofList t.toList)) = some t := by
        simp [ht.1]
      simp only [List.map_cons, trimList_of_isWord ht, List.filterMap_cons, hsome,
        ih fun u hu => h u (List.mem_cons_of_mem t hu)]

theorem qualify_eq_joinWith (segments : List String) (name : String) :
    (Namespace.mk segments).qualify name = Text.joinWith "::" (segments ++ [name]) := by
  cases segments with
  | nil => rfl
  | cons s segments =>
    rw [Text.joinWith_append "::" (List.cons_ne_nil s segments) (List.cons_ne_nil name [])]
    rfl

end Namespace

end JniBindings
