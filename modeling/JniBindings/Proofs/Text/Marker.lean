import JniBindings.Text.Segments
/-!
# The first occurrence of a marker

`cutAt` looks for the first place at which a marker stands. A text is *skipped* by a marker if the
search never ends in it, whatever follows. Texts that end in a character which the marker does not
have are skipped as soon as they lack the marker, and skipped texts can be put together.
-/

namespace JniBindings.Text

variable {marker : List Char}

/-! ### Characters -/

theorem forall_ne_of_not_mem {c : Char} {s : List Char} (h : c ∉ s) :
    ∀ d ∈ s, decide (d ≠ c) = true := by
  intro d hd
  rw [decide_eq_true_eq]
  rintro rfl
  exact h hd

theorem takeWhile_ne_append_cons {c : Char} {s : List Char} (h : c ∉ s) (rest : List Char) :
    (s ++ c :: rest).takeWhile (· ≠ c) = s := by
  rw [List.takeWhile_append_of_pos (forall_ne_of_not_mem h)]
  simp

theorem dropWhile_ne_append_cons {c : Char} {s : List Char} (h : c ∉ s) (rest : List Char) :
    (s ++ c :: rest).dropWhile (· ≠ c) = c :: rest := by
  rw [List.dropWhile_append_of_pos (forall_ne_of_not_mem h)]
  simp

theorem not_mem_takeWhile_ne (c : Char) (s : List Char) : c ∉ s.takeWhile (· ≠ c) := by
  intro h
  simpa using List.all_eq_true.1 List.all_takeWhile c h

/-! ### Markers -/

/-- The marker is never found in the text or across its end, whatever follows it. -/
def Skipped (marker s : List Char) : Prop :=
  ∀ rest, cutAt marker (s ++ rest) = (cutAt marker rest).map fun (x, y) => (s ++ x, y)

theorem dropStart?_cons_of_ne {c d : Char} (h : c ≠ d) (start s : List Char) :
    dropStart? (c :: start) (d :: s) = none := by
  simp only [dropStart?, if_neg h]

/-- A beginning that does not have a character is found in front of it or not at all. -/
theorem dropStart?_append_cons {c : Char} (hc : c ∉ marker) (s rest : List Char) :
    dropStart? marker (s ++ c :: rest) = (dropStart? marker s).map (· ++ c :: rest) := by
  induction marker generalizing s with
  | nil => rfl
  | cons d marker ih =>
    rw [List.mem_cons, not_or] at hc
    cases s with
    | nil => exact dropStart?_cons_of_ne (Ne.symm hc.1) marker rest
    | cons e s =>
      by_cases hde : d = e
      · subst hde
        simpa only [List.cons_append, dropStart?, if_true] using ih hc.2 s
      · rw [List.cons_append, dropStart?_cons_of_ne hde, dropStart?_cons_of_ne hde]
        rfl

theorem cutAt_cons_of_dropStart?_eq_none {c : Char} {s : List Char}
    (h : dropStart? marker (c :: s) = none) :
    cutAt marker (c :: s) = (cutAt marker s).map fun (x, y) => (c :: x, y) := by
  rw [cutAt, h]

theorem dropStart?_eq_none_of_lacks {c : Char} {s : List Char} (h : lacks marker (c :: s)) :
    dropStart? marker (c :: s) = none := by
  cases hd : dropStart? marker (c :: s) with
  | none => rfl
  | some after => simp [lacks, cutAt, hd] at h

theorem lacks_of_lacks_cons {c : Char} {s : List Char} (h : lacks marker (c :: s)) :
    lacks marker s := by
  have hd := dropStart?_eq_none_of_lacks h
  simpa only [lacks, cutAt_cons_of_dropStart?_eq_none hd, Option.isNone_map] using h

theorem dropStart?_nil_eq_none_of_lacks {s : List Char} (h : lacks marker s) :
    dropStart? marker [] = none := by
  induction s with
  | nil =>
    simpa only [lacks, cutAt, Option.isNone_map, Option.isNone_iff_eq_none] using h
  | cons c s ih => exact ih (lacks_of_lacks_cons h)

theorem skipped_nil (marker : List Char) : Skipped marker [] := by
  intro rest
  cases hcut : cutAt marker rest <;> simp [hcut]

theorem Skipped.append {s t : List Char} (hs : Skipped marker s) (ht : Skipped marker t) :
    Skipped marker (s ++ t) := by
  intro rest
  rw [List.append_assoc, hs, ht, Option.map_map]
  congr 1
  funext pair
  simp only [Function.comp_apply, List.append_assoc]

theorem Skipped.flatMap {α : Type} {f : α → List Char} {xs : List α}
    (h : ∀ x ∈ xs, Skipped marker (f x)) : Skipped marker (xs.flatMap f) := by
  induction xs with
  | nil => exact skipped_nil marker
  | cons x xs ih =>
    rw [List.flatMap_cons]
    exact (h x List.mem_cons_self).append (ih fun y hy => h y (List.mem_cons_of_mem x hy))

/-- A marker cannot reach over a character that it does not have. -/
theorem skipped_append_singleton {c : Char} (hc : c ∉ marker) {s : List Char}
    (h : lacks marker s) : Skipped marker (s ++ [c]) := by
  have hnil := dropStart?_nil_eq_none_of_lacks h
  intro rest
  induction s with
  | nil =>
    have hd : dropStart? marker (c :: rest) = none := by
      have hd := dropStart?_append_cons hc [] rest
      rwa [hnil] at hd
    exact cutAt_cons_of_dropStart?_eq_none hd
  | cons d s ih =>
    have hd : dropStart? marker (d :: (s ++ [c] ++ rest)) = none := by
      have hd := dropStart?_append_cons hc (d :: s) rest
      rw [dropStart?_eq_none_of_lacks h] at hd
      simpa using hd
    rw [List.cons_append, List.cons_append, cutAt_cons_of_dropStart?_eq_none hd,
      ih (lacks_of_lacks_cons h), Option.map_map]
    rfl

theorem eq_append_of_cutAt {s x y : List Char} (h : cutAt marker s = some (x, y)) :
    s = x ++ marker ++ y := by
  induction s generalizing x with
  | nil =>
    obtain ⟨after, hafter, h⟩ := Option.map_eq_some_iff.1 h
    obtain ⟨rfl, rfl⟩ := Prod.mk.inj h
    exact dropStart?_eq_some_iff.1 hafter
  | cons c s ih =>
    cases hd : dropStart? marker (c :: s) with
    | some after =>
      rw [cutAt, hd] at h
      obtain ⟨rfl, rfl⟩ := Prod.mk.inj (Option.some.inj h)
      exact dropStart?_eq_some_iff.1 hd
    | none =>
      rw [cutAt_cons_of_dropStart?_eq_none hd] at h
      obtain ⟨⟨before, after⟩, hcut, h⟩ := Option.map_eq_some_iff.1 h
      obtain ⟨rfl, rfl⟩ := Prod.mk.inj h
      rw [ih hcut]
      rfl

theorem lacks_of_not_infix {s : List Char} (h : ¬ marker <:+: s) : lacks marker s := by
  rw [lacks, Option.isNone_iff_eq_none]
  cases hcut : cutAt marker s with
  | none => rfl
  | some pair => exact absurd ⟨pair.1, pair.2, (eq_append_of_cutAt hcut).symm⟩ h

theorem Skipped.lacks_append {s t : List Char} (hs : Skipped marker s) (ht : lacks marker t) :
    lacks marker (s ++ t) := by
  rw [lacks, hs t, Option.isNone_map]
  exact ht

theorem Skipped.cutAt_append {s t x y : List Char} (hs : Skipped marker s)
    (ht : cutAt marker t = some (x, y)) : cutAt marker (s ++ t) = some (s ++ x, y) := by
  rw [hs t, ht]
  rfl

/-- A marker is found after a text that does not have its first character. -/
theorem cutAt_append_of_head_not_mem {c : Char} {s : List Char} (hc : c ∉ s)
    (rest : List Char) :
    cutAt (c :: marker) (s ++ (c :: marker ++ rest)) = some (s, rest) := by
  induction s with
  | nil =>
    rw [List.nil_append, List.cons_append, cutAt, ← List.cons_append, dropStart?_append]
  | cons d s ih =>
    rw [List.mem_cons, not_or] at hc
    have hd : dropStart? (c :: marker) (d :: (s ++ (c :: marker ++ rest))) = none :=
      dropStart?_cons_of_ne hc.1 _ _
    rw [List.cons_append, cutAt_cons_of_dropStart?_eq_none hd, ih hc.2]
    rfl

end JniBindings.Text
