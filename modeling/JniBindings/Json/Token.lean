import JniBindings.Json.Basic
/-!
# JSON tokens

`Json.tokens?` cuts a text into punctuation, words, numbers and strings, leaving out white space.
A string may hold any character from U+0020 on, except that a quote and a backslash are written as
escapes.
-/

namespace JniBindings.Json

/-- The smallest parts of a JSON text. -/
inductive Token
  | openObject
  | closeObject
  | openArray
  | closeArray
  | colon
  | comma
  | null
  | boolean (value : Bool)
  | number (n : Number)
  | string (pieces : List Piece)
deriving DecidableEq, Repr

/-- White space between tokens. -/
def isSpace (c : Char) : Bool := c = ' ' || c = '\n' || c = '\t' || c = '\r'

/-- The punctuation. -/
def punctuation? (c : Char) : Option Token :=
  if c = '\x7b' then some .openObject
  else if c = '\x7d' then some .closeObject
  else if c = '[' then some .openArray
  else if c = ']' then some .closeArray
  else if c = ':' then some .colon
  else if c = ',' then some .comma
  else none

/-- The words. -/
def word? (s : List Char) : Option Token :=
  if s = "null".toList then some .null
  else if s = "true".toList then some (.boolean true)
  else if s = "false".toList then some (.boolean false)
  else none

/-! ### Numbers -/

/-- The character may stand in a number. -/
def isNumberChar (c : Char) : Bool :=
  c.isDigit || c = '-' || c = '+' || c = '.' || c = 'e' || c = 'E'

/-- The digits of an integer: no zero stands in front of other digits. -/
def isWhole (digits : List Char) : Bool :=
  !digits.isEmpty && (digits.head? ≠ some '0' || digits.length = 1)

/-- The number literal that makes up a whole text. -/
def number? (s : List Char) : Option Number :=
  let (negative, s) := match s with
    | '-' :: rest => (true, rest)
    | rest => (false, rest)
  let whole := s.takeWhile Char.isDigit
  let rest := s.dropWhile Char.isDigit
  let (fraction, rest) := match rest with
    | '.' :: rest => (some (rest.takeWhile Char.isDigit), rest.dropWhile Char.isDigit)
    | rest => (none, rest)
  if !isWhole whole || fraction = some [] then none
  else match rest with
    | [] => some ⟨negative, whole, fraction, none⟩
    | c :: rest =>
      if c = 'e' || c = 'E' then
        (Decimal.readExponent? rest).map fun exponent => ⟨negative, whole, fraction, some exponent⟩
      else none

/-! ### Strings -/

/-- The value of a hexadecimal digit. -/
def hexValue? (c : Char) : Option Nat :=
  if '0' ≤ c && c ≤ '9' then some (c.toNat - '0'.toNat)
  else if 'a' ≤ c && c ≤ 'f' then some (c.toNat - 'a'.toNat + 10)
  else if 'A' ≤ c && c ≤ 'F' then some (c.toNat - 'A'.toNat + 10)
  else none

/-- The UTF-16 unit written in four hexadecimal digits. -/
def unit? (h₁ h₂ h₃ h₄ : Char) : Option Nat := do
  let d₁ ← hexValue? h₁
  let d₂ ← hexValue? h₂
  let d₃ ← hexValue? h₃
  let d₄ ← hexValue? h₄
  pure (((d₁ * 16 + d₂) * 16 + d₃) * 16 + d₄)

/-- The character that an escape of one letter stands for. -/
def escape? (c : Char) : Option Char :=
  if c = '"' || c = '\\' || c = '/' then some c
  else if c = 'b' then some '\x08'
  else if c = 'f' then some '\x0c'
  else if c = 'n' then some '\n'
  else if c = 'r' then some '\r'
  else if c = 't' then some '\t'
  else none

/-- A piece in front of the pieces that were read. -/
def withPiece (piece : Piece) (read : Option (List Piece × List Char)) :
    Option (List Piece × List Char) :=
  read.map fun (pieces, rest) => (piece :: pieces, rest)

/-- Reads the rest of a string, up to and including the quote that closes it. -/
def readString : List Char → Option (List Piece × List Char)
  | [] => none
  | c :: rest =>
    if c = '"' then some ([], rest)
    else if c = '\\' then
      match rest with
      | [] => none
      | e :: rest =>
        if e = 'u' then
          match rest with
          | h₁ :: h₂ :: h₃ :: h₄ :: rest =>
            match unit? h₁ h₂ h₃ h₄ with
            | some n => withPiece (.unit n) (readString rest)
            | none => none
          | _ => none
        else
          match escape? e with
          | some d => withPiece (.char d) (readString rest)
          | none => none
    else if c.toNat < 0x20 then none
    else withPiece (.char c) (readString rest)

theorem withPiece_eq_some_iff {piece : Piece} {read : Option (List Piece × List Char)}
    {pieces : List Piece} {rest : List Char} :
    withPiece piece read = some (pieces, rest) ↔
      ∃ others, read = some (others, rest) ∧ pieces = piece :: others := by
  cases read with
  | none => simp [withPiece]
  | some pair =>
    obtain ⟨others, rest'⟩ := pair
    simp only [withPiece, Option.map_some, Option.some.injEq, Prod.mk.injEq]
    constructor
    · rintro ⟨rfl, rfl⟩
      exact ⟨others, ⟨rfl, rfl⟩, rfl⟩
    · rintro ⟨_, ⟨rfl, rfl⟩, rfl⟩
      exact ⟨rfl, rfl⟩

/-- Reading a string takes at least its closing quote. -/
theorem length_lt_of_readString {s rest : List Char} {pieces : List Piece}
    (h : readString s = some (pieces, rest)) : rest.length < s.length := by
  fun_induction readString s generalizing pieces rest <;>
    grind [withPiece_eq_some_iff]

/-! ### Texts -/

theorem length_dropWhile_le (p : Char → Bool) (s : List Char) :
    (s.dropWhile p).length ≤ s.length :=
  (List.dropWhile_sublist p).length_le

/-- The tokens of a text. -/
def tokens? (s : List Char) : Option (List Token) :=
  match s with
  | [] => some []
  | c :: rest =>
    if isSpace c then tokens? rest
    else match punctuation? c with
      | some token => (tokens? rest).map (token :: ·)
      | none =>
        if c = '"' then
          match h : readString rest with
          | some (pieces, after) =>
            have := length_lt_of_readString h
            (tokens? after).map (.string pieces :: ·)
          | none => none
        else if c.isAlpha then
          have := length_dropWhile_le Char.isAlpha rest
          match word? (c :: rest.takeWhile Char.isAlpha) with
          | some token => (tokens? (rest.dropWhile Char.isAlpha)).map (token :: ·)
          | none => none
        else
          have := length_dropWhile_le isNumberChar rest
          match number? (c :: rest.takeWhile isNumberChar) with
          | some n => (tokens? (rest.dropWhile isNumberChar)).map (.number n :: ·)
          | none => none
termination_by s.length

end JniBindings.Json
