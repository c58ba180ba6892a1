import JniBindings.Proofs.ClassNames
/-!
# Identifiers among the names of a class

The simple name of a class names a namespace, and its proxy a class, so both have to be identifiers.
A name becomes an identifier by escaping each character that no identifier has. This leaves two
things as they are: a digit in front (`beginsWithDigit_identifier`), as in the name of an anonymous
class, and a name that is a keyword (`isKeyword_identifier`). Where the class is called neither, the
names are identifiers of C++ that are no keywords (`ClassNames.identifiers_iff`).
-/

namespace JniBindings

/-! ### Identifiers and keywords -/

/-- The text has the form of an identifier: a letter or an underscore, and then letters, digits and
underscores. -/
def isIdentifier (s : String) : Bool :=
  match s.toList with
  | [] => false
  | c :: rest => (c.isAlpha || c = '_') && rest.all isWordChar

/-- A digit stands at the front of the text. -/
def beginsWithDigit (s : String) : Bool := s.toList.head?.any Char.isDigit

/-- The names of macros among those that the language or its libraries give a meaning to. -/
def macroNames : List String := ["NULL", "assert"]

/-- The text is a keyword of C++. -/
def isKeyword (s : String) : Bool := keywords.contains s && !macroNames.contains s

theorem isDigit_eq_false_of_isAlpha {c : Char} (h : c.isAlpha) : c.isDigit = false := by
  rw [← Bool.not_eq_true]
  intro hdigit
  have hletter : (65 ≤ c.toNat ∧ c.toNat ≤ 90) ∨ (97 ≤ c.toNat ∧ c.toNat ≤ 122) := by
    change (decide (65 ≤ c.val ∧ c.val ≤ 90) || (97 ≤ c.val && c.val ≤ 122)) = true at h
    simpa [UInt32.le_iff_toNat_le] using h
  have hrange : 48 ≤ c.toNat ∧ c.toNat ≤ 57 := by
    change (48 ≤ c.val && c.val ≤ 57) = true at hdigit
    simpa [UInt32.le_iff_toNat_le] using hdigit
  omega

/-- A word is an identifier unless a digit stands at its front. -/
theorem isIdentifier_iff_of_isWord {s : String} (h : IsWord s) :
    isIdentifier s ↔ beginsWithDigit s = false := by
  obtain ⟨hne, hall⟩ := h
  unfold isIdentifier beginsWithDigit
  cases hs : s.toList with
  | nil => exact absurd hs hne
  | cons c rest =>
    rw [hs, List.all_cons, Bool.and_eq_true, isWordChar, Char.isAlphanum] at hall
    obtain ⟨hc, hrest⟩ := hall
    by_cases hletter : c.isAlpha
    · simp [hletter, hrest, isDigit_eq_false_of_isAlpha hletter]
    · by_cases hunderscore : c = '_'
      · subst hunderscore
        simp [hrest]
      · have hdigit : c.isDigit := by simpa [hletter, hunderscore] using hc
        simp [hletter, hunderscore, hdigit]

/-- Digits in front stay, and no escape begins with one. -/
theorem beginsWithDigit_identifier (name : String) :
    beginsWithDigit (identifier name) = beginsWithDigit name := by
  unfold beginsWithDigit
  rw [identifier, String.toList_ofList]
  cases name.toList with
  | nil => rfl
  | cons c rest =>
    rw [List.flatMap_cons, identifierChar]
    by_cases hc : isWordChar c
    · simp [hc]
    · have hdigit : c.isDigit = false := by
        rw [← Bool.not_eq_true]
        intro hdigit
        exact hc (by simp [isWordChar, Char.isAlphanum, hdigit])
      simp [hc, hdigit]

theorem isWord_identifier {name : String} (h : name ≠ "") : IsWord (identifier name) := by
  refine ⟨fun hempty => h ?_, List.all_eq_true.2 fun c hc => isWordChar_of_mem_identifier hc⟩
  rw [identifier, String.toList_ofList, List.flatMap_eq_nil_iff] at hempty
  rw [← String.toList_eq_nil_iff, List.eq_nil_iff_forall_not_mem]
  intro c hc
  have hchar := hempty c hc
  rw [identifierChar] at hchar
  split at hchar <;> cases hchar

/-! ### Keywords have no escapes -/

/-- A hexadecimal digit as escapes have it. -/
def isHexDigit (c : Char) : Bool := c.isDigit || ('a' ≤ c && c ≤ 'f')

theorem isHexDigit_hexDigit : ∀ n < 16, isHexDigit (Text.hexDigit n) := by decide

/-- Somewhere in the text, three hexadecimal digits follow an underscore. -/
def holdsEscape : List Char → Bool
  | '_' :: a :: b :: c :: rest =>
    (isHexDigit a && isHexDigit b && isHexDigit c) || holdsEscape (a :: b :: c :: rest)
  | _ :: rest => holdsEscape rest
  | [] => false

theorem holdsEscape_cons {s : List Char} (c : Char) (h : holdsEscape s) : holdsEscape (c :: s) := by
  rw [holdsEscape.eq_def]
  split
  · next hs =>
    obtain ⟨-, rfl⟩ := List.cons.inj hs
    rw [h, Bool.or_true]
  · next hs =>
    obtain ⟨-, rfl⟩ := List.cons.inj hs
    exact h
  · next hs => cases hs

theorem holdsEscape_append {s : List Char} (front : List Char) (h : holdsEscape s) :
    holdsEscape (front ++ s) := by
  induction front with
  | nil => exact h
  | cons c front ih => exact holdsEscape_cons c ih

/-- Every code point has more than three digits. -/
theorem holdsEscape_codePoint (c : Char) (rest : List Char) :
    holdsEscape ('_' :: Text.codePoint c ++ rest) := by
  have hdigit (n : Nat) : isHexDigit (Text.hexDigit (n % 16)) :=
    isHexDigit_hexDigit _ (Nat.mod_lt n (by omega))
  have hhigh : isHexDigit (Text.hexDigit (c.toNat / 0x100000)) := by
    have hlt := Text.toNat_lt c
    exact isHexDigit_hexDigit _ (by omega)
  rw [Text.codePoint]
  split <;> simp [Text.fiveHexDigits, holdsEscape, hdigit, hhigh]

theorem holdsEscape_identifier {name : String} {c : Char} (hmem : c ∈ name.toList)
    (hc : isWordChar c = false) : holdsEscape (identifier name).toList := by
  obtain ⟨front, back, hsplit⟩ := List.append_of_mem hmem
  rw [identifier, String.toList_ofList, hsplit, List.flatMap_append, List.flatMap_cons,
    identifierChar, hc]
  exact holdsEscape_append _ (holdsEscape_codePoint c _)

theorem holdsEscape_of_mem_keywords : ∀ w ∈ keywords, holdsEscape w.toList = false := by
  decide +kernel

theorem isWord_of_mem_keywords : ∀ w ∈ keywords, IsWord w := by
  decide +kernel

/-- Only a keyword becomes a keyword. -/
theorem isKeyword_identifier (name : String) : isKeyword (identifier name) = isKeyword name := by
  by_cases hword : IsWord name
  · rw [identifier_of_isWord hword]
  · have hname : name ∉ keywords := fun hmem => hword (isWord_of_mem_keywords name hmem)
    have hidentifier : identifier name ∉ keywords := by
      intro hmem
      by_cases hempty : name = ""
      · subst hempty
        exact absurd hmem (by decide)
      · -- A name that is no word holds a character that is escaped.
        have hforeign : ¬ ∀ c ∈ name.toList, isWordChar c := fun hall =>
          hword ⟨by simpa using hempty, List.all_eq_true.2 hall⟩
        push Not at hforeign
        obtain ⟨c, hc, hforeign⟩ := hforeign
        have hescape := holdsEscape_identifier hc (eq_false_of_ne_true hforeign)
        rw [holdsEscape_of_mem_keywords _ hmem] at hescape
        cases hescape
    simp [isKeyword, hname, hidentifier]

/-! ### Names of classes -/

namespace ClassNames

variable {c : ClassModel} {names : ClassNames}

theorem isWord_simple (h : ofModel c = .ok names) : IsWord names.simple := by
  obtain ⟨hnamed, hmade⟩ := isNamed_and_isMadeFrom_of_ofModel h
  rw [hmade.simple]
  exact isWord_identifier (by simpa using hnamed.simpleName)

theorem beginsWithDigit_proxy (h : ofModel c = .ok names) :
    beginsWithDigit names.proxy = beginsWithDigit names.simple := by
  have hmade := isMadeFrom_of_ofModel h
  rw [hmade.proxy, beginsWithDigit, beginsWithDigit, String.toList_append,
    List.head?_append_of_ne_nil _ (isWord_simple h).1]

/-- The simple name of a class and the name of its proxy are identifiers if and only if no digit
stands at the front of what the class is called, and its simple name is a keyword if and only if the
class is called so. -/
theorem identifiers_iff (h : ofModel c = .ok names) :
    (isIdentifier names.simple ↔ ¬ beginsWithDigit (Text.trim c.simpleName))
      ∧ (isIdentifier names.proxy ↔ ¬ beginsWithDigit (Text.trim c.simpleName))
      ∧ (isKeyword names.simple ↔ isKeyword (Text.trim c.simpleName)) := by
  have hmade := isMadeFrom_of_ofModel h
  have hdigit : beginsWithDigit names.simple = beginsWithDigit (Text.trim c.simpleName) := by
    rw [hmade.simple, beginsWithDigit_identifier]
  refine ⟨?_, ?_, ?_⟩
  · rw [isIdentifier_iff_of_isWord (isWord_simple h), hdigit, Bool.not_eq_true]
  · rw [isIdentifier_iff_of_isWord hmade.isWord_proxy, beginsWithDigit_proxy h, hdigit,
      Bool.not_eq_true]
  · rw [hmade.simple, isKeyword_identifier]

/-- The name of a nested class that is not ASCII. -/
theorem identifiers_iff_nested :
    ∃ names, ofModel (.ofName "a.Outer$Größe") = .ok names
      ∧ isIdentifier names.simple ∧ isIdentifier names.proxy ∧ ¬ isKeyword names.simple := by
  obtain ⟨names, hnames, -⟩ := exists_ofModel (c := .ofName "a.Outer$Größe")
    (by decide) (by decide) (by decide)
  obtain ⟨hsimple, hproxy, hkeyword⟩ := identifiers_iff hnames
  refine ⟨names, hnames, hsimple.2 (by decide), hproxy.2 (by decide), ?_⟩
  rw [hkeyword]
  decide

/-- An anonymous class, whose name is a number, and a class that is called like a keyword. -/
theorem exists_not_isIdentifier :
    (∃ names, ofModel (.ofName "a.Outer$1") = .ok names
      ∧ ¬ isIdentifier names.simple ∧ ¬ isIdentifier names.proxy)
    ∧ ∃ names, ofModel (.ofName "a.union") = .ok names ∧ isKeyword names.simple := by
  refine ⟨?_, ?_⟩
  · obtain ⟨names, hnames, hmade⟩ := exists_ofModel (c := .ofName "a.Outer$1")
      (by decide) (by decide) (by decide)
    refine ⟨names, hnames, ?_⟩
    rw [hmade.proxy, hmade.simple]
    decide
  · obtain ⟨names, hnames, hmade⟩ := exists_ofModel (c := .ofName "a.union")
      (by decide) (by decide) (by decide)
    refine ⟨names, hnames, ?_⟩
    rw [hmade.simple]
    decide

end ClassNames

end JniBindings
