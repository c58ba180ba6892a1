import JniBindings.Proofs.JavaType.Grammar
import JniBindings.Proofs.Text.Lines
/-!
# Reading back what has been spelled

A type is read back from its spelling, also with white space around it, and so no two types are
spelled alike (`JavaType.ofSpelling_spelling`). The names of classes have to be such that they can
be told from everything else (`IsSpelledName`).
-/

namespace JniBindings

/-! ### White space -/

/-- The code points of white space. -/
def blankCodes : List Nat :=
  [0x9, 0xa, 0xb, 0xc, 0xd, 0x20, 0x85, 0xa0, 0x1680, 0x2000, 0x2001, 0x2002, 0x2003, 0x2004,
    0x2005, 0x2006, 0x2007, 0x2008, 0x2009, 0x200a, 0x2028, 0x2029, 0x202f, 0x205f, 0x3000]

theorem toNat_mem_blankCodes {c : Char} (h : Text.isBlank c) : c.toNat ∈ blankCodes := by
  simp only [Text.isBlank, Bool.or_eq_true, Bool.and_eq_true, decide_eq_true_eq] at h
  simp only [blankCodes, List.mem_cons, List.not_mem_nil, or_false]
  omega

theorem isNameChar_of_mem_blankCodes : ∀ n ∈ blankCodes, isNameChar (Char.ofNat n) = false := by
  decide

theorem isBlank_eq_false_of_isNameChar {c : Char} (h : isNameChar c) : Text.isBlank c = false := by
  rw [Bool.eq_false_iff]
  intro hblank
  have hno := isNameChar_of_mem_blankCodes _ (toNat_mem_blankCodes hblank)
  rw [Char.ofNat_toNat, h] at hno
  cases hno

/-! ### Brackets -/

theorem bracketPairs_append (n : Nat) : bracketPairs n ++ ['[', ']'] = bracketPairs (n + 1) := by
  induction n with
  | zero => rfl
  | succ n ih => rw [bracketPairs, List.cons_append, List.cons_append, ih, ← bracketPairs]

theorem eq_of_mem_bracketPairs {n : Nat} {c : Char} (h : c ∈ bracketPairs n) :
    c = '[' ∨ c = ']' := by
  induction n with
  | zero => cases h
  | succ n ih =>
    rcases List.mem_cons.1 h with rfl | h
    · exact Or.inl rfl
    · rcases List.mem_cons.1 h with rfl | h
      · exact Or.inr rfl
      · exact ih h

/-! ### Spelled names -/

/-- The name of a class that is spelled like no other type. -/
structure IsSpelledName (name : String) : Prop where
  ne_empty : name ≠ ""
  isNameText : IsNameText name
  not_dotted : ¬ dots <:+ name.toList
  ne_keyword : ∀ p : Primitive, name ≠ p.keyword
  ne_null : name ≠ "null"

/-- What the spelling of a type without its brackets has to be for it to be read as the type. -/
structure IsSpelledAs (name : String) (t : JavaType) : Prop where
  ne_empty : name ≠ ""
  isNameText : IsNameText name
  not_dotted : ¬ dots <:+ name.toList
  isNamed : IsNamed name t

namespace JavaType

theorem isSpelledAs_element {t : JavaType} (h : t.NamesHave IsSpelledName) :
    IsSpelledAs t.element.spelling t.element := by
  induction t with
  | primitive p =>
    have hchars : p.keyword.toList.all isNameChar := by cases p <;> decide
    refine ⟨?_, fun c hc => List.all_eq_true.1 hchars c hc, ?_, .primitive p⟩
    · cases p <;> decide
    · cases p <;> decide
  | array component ih => exact ih h
  | declared name =>
    exact ⟨h.ne_empty, h.isNameText, h.not_dotted, .declared h.ne_keyword h.ne_null⟩
  | null =>
    have hchars : "null".toList.all isNameChar := by decide
    exact ⟨by decide, fun c hc => List.all_eq_true.1 hchars c hc, by decide, .null⟩

/-- The parts of a type's spelling. -/
def spelled (t : JavaType) : SpelledType := ⟨t.element.spelling.toList, [], t.dimensions, false⟩

theorem toList_spelling (t : JavaType) :
    t.spelling.toList = t.element.spelling.toList ++ bracketPairs t.dimensions := by
  induction t with
  | array component ih =>
    rw [spelling, String.toList_append, ih, List.append_assoc, dimensions, ← bracketPairs_append]
    rfl
  | _ => exact (List.append_nil _).symm

theorem text_spelled (t : JavaType) : t.spelled.text = t.spelling.toList := by
  rw [toList_spelling, SpelledType.text, SpelledType.ending]
  simp [spelled, dotsIf]

variable {t : JavaType}

section Spelled

variable (h : t.NamesHave IsSpelledName)
include h

theorem isValid_spelled : t.spelled.IsValid where
  name_ne_nil := String.toList_eq_nil_iff.not.2 (isSpelledAs_element h).ne_empty
  nameChars := (isSpelledAs_element h).isNameText
  longest := by
    intro c hc
    have hhead : (bracketPairs t.dimensions).head? = some c := by
      simpa [spelled, SpelledType.ending, dotsIf] using hc
    rcases eq_of_mem_bracketPairs (List.mem_of_head? hhead) with rfl | rfl <;> decide
  arguments := Or.inl rfl

theorem denotes_spelled : t.spelled.Denotes t := by
  have helement := isSpelledAs_element h
  have hdenotes : t.spelled.Denotes (t.element.arrayOf t.dimensions) :=
    .plain helement.not_dotted (by rw [spelled, String.ofList_toList]; exact helement.isNamed)
  rwa [arrayOf_element_dimensions] at hdenotes

theorem isBlank_eq_false_of_mem_spelling {c : Char} (hc : c ∈ t.spelling.toList) :
    Text.isBlank c = false := by
  rw [toList_spelling, List.mem_append] at hc
  rcases hc with hc | hc
  · exact isBlank_eq_false_of_isNameChar ((isSpelledAs_element h).isNameText c hc)
  · rcases eq_of_mem_bracketPairs hc with rfl | rfl <;> decide

theorem ofSpelling_surrounded {before after : String}
    (hbefore : ∀ c ∈ before.toList, Text.isBlank c) (hafter : ∀ c ∈ after.toList, Text.isBlank c) :
    ofSpelling (before ++ t.spelling ++ after) = .ok t := by
  have hvalid := isValid_spelled h
  have hne : t.spelling.toList ≠ [] := by
    rw [← text_spelled]
    exact List.append_ne_nil_of_left_ne_nil hvalid.name_ne_nil _
  have htight : Text.IsTight t.spelling.toList :=
    ⟨fun c hc => isBlank_eq_false_of_mem_spelling h (List.mem_of_head? hc),
      fun c hc => isBlank_eq_false_of_mem_spelling h (List.mem_of_getLast? hc)⟩
  have htrim : Text.trimList (before ++ t.spelling ++ after).toList = t.spelled.text := by
    rw [String.toList_append, String.toList_append, List.append_assoc,
      Text.trimList_surrounded hbefore hafter hne htight, text_spelled]
  rw [ofSpelling, htrim]
  exact faultIn_complete_eq_ok_iff.2 (readSpelling_text hvalid (denotes_spelled h))

end Spelled

/-- A type is read back from its spelling, whatever white space stands around it, and is the only
type that is spelled like this. -/
theorem ofSpelling_spelling (h : t.NamesHave IsSpelledName) :
    (∀ before after : String, (∀ c ∈ before.toList, Text.isBlank c) →
      (∀ c ∈ after.toList, Text.isBlank c) → ofSpelling (before ++ t.spelling ++ after) = .ok t)
    ∧ ∀ u : JavaType, u.NamesHave IsSpelledName → u.spelling = t.spelling → u = t := by
  refine ⟨fun before after hbefore hafter => ofSpelling_surrounded h hbefore hafter, ?_⟩
  intro u hu hut
  have hread {v : JavaType} (hv : v.NamesHave IsSpelledName) :
      ofSpelling ("" ++ v.spelling ++ "") = .ok v := ofSpelling_surrounded hv nofun nofun
  have hreads := hread hu
  rw [hut, hread h] at hreads
  exact (Except.ok.inj hreads).symm

theorem ofSpelling_spelling_dottedName :
    (array (array (declared "é$1.."))).NamesHave IsSpelledName
      ∧ ofSpelling "\u00a0é$1..[][] \n" = .ok (array (array (declared "é$1.."))) := by
  have hname : IsSpelledName "é$1.." := by
    have hchars : "é$1..".toList.all isNameChar := by decide
    refine ⟨by decide, fun c hc => List.all_eq_true.1 hchars c hc, by decide, ?_, by decide⟩
    intro p
    cases p <;> decide
  have hbefore : "\u00a0".toList.all Text.isBlank := by decide
  have hafter : " \n".toList.all Text.isBlank := by decide
  refine ⟨hname, ?_⟩
  exact (ofSpelling_spelling (t := array (array (declared "é$1.."))) hname).1 "\u00a0" " \n"
    (List.all_eq_true.1 hbefore) (List.all_eq_true.1 hafter)

end JavaType

end JniBindings
