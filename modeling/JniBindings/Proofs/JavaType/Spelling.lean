import JniBindings.JavaType.Spelling
import JniBindings.Proofs.JavaType.MethodType
import JniBindings.Proofs.JavaType.Native
import JniBindings.Proofs.Outcome
/-!
# Reading spelled types

A type that is read from a spelling is made from a class whose name consists of name characters
(`namesHave_ofSpelling`). So neither the characters that end a name in a descriptor nor those that
separate its packages there stand in it (`ne_of_isNameChar`); but a name can be empty, and so can be
what stands between two of its dots.
-/

namespace JniBindings

/-- Every character of the name may stand in a dotted class name. -/
def IsNameText (name : String) : Prop := ∀ c ∈ name.toList, isNameChar c

theorem ne_of_isNameChar {c : Char} (h : isNameChar c) :
    c ≠ '/' ∧ c ≠ ';' ∧ c ≠ '[' ∧ c ≠ '<' ∧ c ≠ '>' := by
  refine ⟨?_, ?_, ?_, ?_, ?_⟩
  all_goals rintro rfl
  all_goals revert h
  all_goals decide

theorem dropDots?_eq_some_iff {name base : List Char} :
    dropDots? name = some base ↔ name = base ++ dots := by
  rw [dropDots?, Option.map_eq_some_iff]
  constructor
  · rintro ⟨reversed, h, rfl⟩
    rw [← List.reverse_inj, Text.dropStart?_eq_some_iff.1 h]
    simp [dots]
  · rintro rfl
    exact ⟨base.reverse, Text.dropStart?_eq_some_iff.2 (by simp [dots]), List.reverse_reverse base⟩

theorem mem_of_mem_dropDots? {name name' : List Char} (h : dropDots? name = some name') {c : Char}
    (hc : c ∈ name') : c ∈ name := by
  rw [dropDots?_eq_some_iff.1 h]
  exact List.mem_append_left _ hc

namespace JavaType

variable {p : String → Prop}

theorem namesHave_named {name : String} (h : p name) : (named name).NamesHave p := by
  unfold named
  split
  · trivial
  · split_ifs
    · trivial
    · exact h

theorem namesHave_arrayOf {t : JavaType} (h : t.NamesHave p) (n : Nat) :
    (t.arrayOf n).NamesHave p := by
  induction n with
  | zero => exact h
  | succ n ih => exact ih

theorem namesHave_readSpelling {s rest : List Char} {t : JavaType}
    (h : readSpelling s = .ok (t, rest)) : t.NamesHave IsNameText := by
  have htake : ∀ c ∈ s.takeWhile isNameChar, isNameChar c := fun c =>
    List.all_eq_true.1 List.all_takeWhile c
  unfold readSpelling at h
  dsimp only at h
  split at h
  · cases h
  · obtain ⟨arguments, -, h⟩ := bind_eq_ok_iff.1 h
    obtain ⟨⟨brackets, back⟩, -, h⟩ := bind_eq_ok_iff.1 h
    obtain ⟨⟨dotted, back⟩, -, h⟩ := bind_eq_ok_iff.1 h
    dsimp only at h
    split at h
    · next name hname =>
      obtain ⟨rfl, -⟩ := Prod.mk.inj (Except.ok.inj h)
      refine namesHave_arrayOf (namesHave_named fun c hc => htake c ?_) _
      rw [String.toList_ofList] at hc
      exact mem_of_mem_dropDots? hname hc
    · obtain ⟨rfl, -⟩ := Prod.mk.inj (Except.ok.inj h)
      refine namesHave_arrayOf (namesHave_named fun c hc => htake c ?_) _
      rwa [String.toList_ofList] at hc

theorem namesHave_ofSpelling {text : String} {t : JavaType} (h : ofSpelling text = .ok t) :
    t.NamesHave IsNameText :=
  namesHave_readSpelling (faultIn_complete_eq_ok_iff.1 h)

end JavaType

end JniBindings
