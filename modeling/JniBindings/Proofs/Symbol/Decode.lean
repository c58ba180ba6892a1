import JniBindings.Proofs.Text.CodePoint
import JniBindings.Proofs.Text.Segments
import JniBindings.Symbol
import Mathlib.Data.List.Basic
import Mathlib.Tactic.SplitIfs
/-!
# Reading symbols

An underscore in a symbol begins an escape if one of the digits from zero to three follows it, and
is a separator if not. `decode` reads a symbol in this way. Since no name and no segment of a name
begins with a digit, it finds every character and every separator that was written, except for
characters above U+FFFF, whose escapes do not begin with a zero.
-/

namespace JniBindings.Symbol

/-- The characters of a symbol, with `none` for each separator. -/
def decode : List Char → List (Option Char)
  | [] => []
  | '_' :: '0' :: a :: b :: c :: d :: s => some (Text.ofFourHexDigits a b c d) :: decode s
  | '_' :: '1' :: s => some '_' :: decode s
  | '_' :: '2' :: s => some ';' :: decode s
  | '_' :: '3' :: s => some '[' :: decode s
  | c :: s => (if c = '_' then none else some c) :: decode s

/-- A text with `none` in place of each separator. -/
def marked (separator : Char) (s : List Char) : List (Option Char) :=
  s.map fun c => if c = separator then none else some c

/-- An underscore in front of the text is a separator. -/
def NoEscape (s : List Char) : Prop := ∀ c, s.head? = some c → c.isDigit = false

theorem decode_separator {s : List Char} (h : NoEscape s) :
    decode ('_' :: s) = none :: decode s := by
  have hdigit {c : Char} {rest : List Char} (hs : '_' :: s = '_' :: c :: rest) :
      c.isDigit = false := h c (by rw [(List.cons.inj hs).2]; rfl)
  rw [decode.eq_def]
  split
  · next hs => cases hs
  · next hs => exact absurd (hdigit hs) (by decide)
  · next hs => exact absurd (hdigit hs) (by decide)
  · next hs => exact absurd (hdigit hs) (by decide)
  · next hs => exact absurd (hdigit hs) (by decide)
  · next hs =>
    obtain ⟨rfl, rfl⟩ := List.cons.inj hs
    rfl

theorem decode_letter {c : Char} (h : c ≠ '_') (s : List Char) :
    decode (c :: s) = some c :: decode s := by
  rw [decode.eq_def]
  split
  · next hs => cases hs
  · next hs => exact absurd (List.cons.inj hs).1 h
  · next hs => exact absurd (List.cons.inj hs).1 h
  · next hs => exact absurd (List.cons.inj hs).1 h
  · next hs => exact absurd (List.cons.inj hs).1 h
  · next hs =>
    obtain ⟨rfl, rfl⟩ := List.cons.inj hs
    rw [if_neg h]

theorem decode_escapeChar {c : Char} (h : c.toNat ≤ 0xFFFF) (s : List Char) :
    decode (escapeChar c ++ s) = some c :: decode s := by
  rw [escapeChar]
  split
  · next hc => rw [hc]; rfl
  · next hc =>
    split
    · exact decode_letter hc s
    · rw [Text.codePoint_of_le h]
      change some (Text.ofFourHexDigits _ _ _ _) :: decode s = _
      rw [Text.ofFourHexDigits_hexDigit h]

theorem noEscape_escapeChar {c : Char} (h : c.isDigit = false) (s : List Char) :
    NoEscape (escapeChar c ++ s) := by
  intro d hd
  rw [escapeChar] at hd
  split at hd
  · obtain rfl : '_' = d := Option.some.inj hd
    decide
  · split at hd
    · obtain rfl : c = d := Option.some.inj hd
      exact h
    · obtain rfl : '_' = d := Option.some.inj hd
      decide

/-- Characters are written in such a way that a separator becomes an underscore and everything else
is read back. -/
structure IsCoding (separator : Char) (char : Char → List Char) : Prop where
  char_separator : char separator = ['_']
  decode_char : ∀ c, c ≠ separator → c.toNat ≤ 0xFFFF → ∀ s,
    decode (char c ++ s) = some c :: decode s
  noEscape : ∀ c, c.isDigit = false → ∀ s, NoEscape (char c ++ s)

theorem noEscape_underscore (s : List Char) : NoEscape ('_' :: s) := by
  intro d hd
  obtain rfl : '_' = d := Option.some.inj hd
  decide

theorem isCoding_classChar : IsCoding '.' classChar where
  char_separator := rfl
  decode_char c hc h s := by
    rw [classChar, if_neg hc]
    exact decode_escapeChar h s
  noEscape c h s := by
    rw [classChar]
    split
    · exact noEscape_underscore s
    · exact noEscape_escapeChar h s

theorem isCoding_descriptorChar : IsCoding '/' descriptorChar where
  char_separator := rfl
  decode_char c hc h s := by
    rw [descriptorChar]
    split_ifs with hsemicolon hbracket
    · rw [hsemicolon]; rfl
    · rw [hbracket]; rfl
    · exact decode_escapeChar h s
  noEscape c h s := by
    rw [descriptorChar]
    split_ifs
    · exact noEscape_underscore _
    · exact noEscape_underscore _
    · exact noEscape_underscore _
    · exact noEscape_escapeChar h s

theorem IsCoding.noEscape_flatMap {separator : Char} {char : Char → List Char}
    (hchar : IsCoding separator char) {s rest : List Char}
    (hs : ∀ c, s.head? = some c → c.isDigit = false) (hrest : NoEscape rest) :
    NoEscape (s.flatMap char ++ rest) := by
  cases s with
  | nil => exact hrest
  | cons c s =>
    rw [List.flatMap_cons, List.append_assoc]
    exact hchar.noEscape c (hs c rfl) _

/-- A text is read back if no separator in it stands in front of a digit. -/
theorem IsCoding.decode_flatMap {separator : Char} {char : Char → List Char}
    (hchar : IsCoding separator char) {s : List Char} (hlow : ∀ c ∈ s, c.toNat ≤ 0xFFFF)
    (hs : Text.Followed separator (·.isDigit = false) s) (rest : List Char) :
    decode (s.flatMap char ++ rest) = marked separator s ++ decode rest := by
  induction s with
  | nil => rfl
  | cons c s ih =>
    have ih := ih (fun d hd => hlow d (List.mem_cons_of_mem c hd)) hs.of_cons
    rw [List.flatMap_cons, List.append_assoc, marked, List.map_cons]
    by_cases hc : c = separator
    · subst hc
      obtain ⟨d, tail, rfl, hd⟩ := hs.startsWith
      have hnext : NoEscape ((d :: tail).flatMap char ++ rest) := by
        rw [List.flatMap_cons, List.append_assoc]
        exact hchar.noEscape d hd _
      rw [hchar.char_separator, List.singleton_append, decode_separator hnext, ih, if_pos rfl]
      rfl
    · rw [hchar.decode_char c hc (hlow c List.mem_cons_self), ih, if_neg hc]
      rfl

theorem decode_flatMap_escapeChar {s : List Char} (h : ∀ c ∈ s, c.toNat ≤ 0xFFFF)
    (rest : List Char) : decode (s.flatMap escapeChar ++ rest) = s.map some ++ decode rest := by
  induction s with
  | nil => rfl
  | cons c s ih =>
    rw [List.flatMap_cons, List.append_assoc, decode_escapeChar (h c List.mem_cons_self),
      ih fun d hd => h d (List.mem_cons_of_mem c hd)]
    rfl

theorem marked_injective (separator : Char) : Function.Injective (marked separator) := by
  apply List.map_injective_iff.2
  intro c d hcd
  dsimp only at hcd
  split_ifs at hcd with hc hd
  · rw [hc, hd]
  · exact Option.some.inj hcd

/-! ### Which characters are used -/

theorem isWordChar_of_mem_escapeChar {c d : Char} (h : d ∈ escapeChar c) : isWordChar d := by
  rw [escapeChar] at h
  split at h
  · simp only [List.mem_cons, List.not_mem_nil, or_false] at h
    rcases h with rfl | rfl <;> decide
  · split at h
    · next hc =>
      obtain rfl := List.mem_singleton.1 h
      rw [isWordChar, hc, Bool.true_or]
    · rcases List.mem_cons.1 h with rfl | h
      · decide
      · rw [isWordChar, Text.isAlphanum_of_mem_codePoint h, Bool.true_or]

theorem isWordChar_of_mem_classChar {c d : Char} (h : d ∈ classChar c) : isWordChar d := by
  rw [classChar] at h
  split at h
  · obtain rfl := List.mem_singleton.1 h
    decide
  · exact isWordChar_of_mem_escapeChar h

theorem isWordChar_of_mem_descriptorChar {c d : Char} (h : d ∈ descriptorChar c) :
    isWordChar d := by
  rw [descriptorChar] at h
  split_ifs at h
  · simp only [List.mem_cons, List.not_mem_nil, or_false] at h
    rcases h with rfl | rfl <;> decide
  · simp only [List.mem_cons, List.not_mem_nil, or_false] at h
    rcases h with rfl | rfl <;> decide
  · obtain rfl := List.mem_singleton.1 h
    decide
  · exact isWordChar_of_mem_escapeChar h

end JniBindings.Symbol
