import JniBindings.Decimal.Double
/-!
# JSON values

A `Json` is a value as it is written: numbers keep their digits, and strings keep the escapes that
stand for UTF-16 units. `Number.value?` and `Text.decode?` give what they denote; both can fail,
for a number beyond the range of doubles and for half a surrogate pair. A value all of whose parts
denote something, nested no deeper than the limit, is `sound`.
-/

namespace JniBindings.Json

/-! ### Numbers -/

/-- A number literal: its digits before and after the point, and its exponent if it has one. -/
structure Number where
  negative : Bool
  whole : List Char
  fraction : Option (List Char)
  exponent : Option Int
deriving DecidableEq, Repr

/-- What a number literal denotes: an integer of 64 bits with a sign, or else a double. -/
inductive NumberValue
  | integer (n : Int64)
  | double (x : Float)
deriving DecidableEq

/-- Appends digits to a significand for as long as it fits 64 bits. Returns how many digits were
left out. -/
def appendDigits (significand : Nat) : List Char → Nat × Nat
  | [] => (significand, 0)
  | c :: digits =>
    let next := 10 * significand + (c.toNat - '0'.toNat)
    if next < Nat.pow 2 64 then appendDigits next digits else (significand, digits.length + 1)

/-- A power of ten from `1e0` to `1e308`. -/
def power (exponent : Nat) : Float := Decimal.nearest 1 exponent

/-- `x · 10 ^ exponent`, rounding once for every 308 powers. There is none above the largest
double. -/
def scale? (x : Float) (exponent : Int) : Option Float :=
  if exponent ≥ 0 then
    if exponent ≤ 308 then
      let y := x * power exponent.toNat
      if Decimal.isFinite y then some y else none
    else if x == 0 then some x else none
  else if -308 ≤ exponent then some (x / power exponent.natAbs)
  else if x == 0 then some x
  else scale? (x / power 308) (exponent + 308)
termination_by exponent.natAbs
decreasing_by omega

/-- What a number literal denotes. A literal without fraction and exponent denotes an integer if it
fits, but minus zero is a double. -/
def Number.value? (n : Number) : Option NumberValue :=
  let (significand, omitted) := appendDigits 0 n.whole
  let signed (x : Float) : NumberValue := .double (if n.negative then -x else x)
  match n.fraction, n.exponent with
  | none, none =>
    if omitted ≠ 0 then (scale? (Float.ofNat significand) omitted).map signed
    else if n.negative then
      if 0 < significand && significand ≤ Nat.pow 2 63 then
        some (.integer (Int64.ofInt (-significand)))
      else some (signed (Float.ofNat significand))
    else if significand < Nat.pow 2 63 then some (.integer (Int64.ofInt significand))
    else some (signed (Float.ofNat significand))
  | fraction, exponent =>
    let fraction := fraction.getD []
    let (significand, unread) := appendDigits significand fraction
    let places : Int := Int.ofNat omitted - Int.ofNat (fraction.length - unread)
    (scale? (Float.ofNat significand) (places + exponent.getD 0)).map signed

/-- The natural number of 64 bits that a literal denotes by digits alone. -/
def Number.natural? (n : Number) : Option Nat :=
  match n.negative, n.fraction, n.exponent, appendDigits 0 n.whole with
  | false, none, none, (significand, 0) => some significand
  | _, _, _, _ => none

/-! ### Strings -/

/-- A piece of a string: a character, or an escape that gives a UTF-16 unit. -/
inductive Piece
  | char (c : Char)
  | unit (n : Nat)
deriving DecidableEq, Repr

/-- The unit is the first half of a surrogate pair. -/
def isHighSurrogate (n : Nat) : Bool := 0xd800 ≤ n && n < 0xdc00

/-- The unit is the second half of a surrogate pair. -/
def isLowSurrogate (n : Nat) : Bool := 0xdc00 ≤ n && n < 0xe000

/-- The characters that pieces denote, unless a half of a surrogate pair stands alone. -/
def decodeChars : List Piece → Option (List Char)
  | [] => some []
  | .char c :: rest => (decodeChars rest).map (c :: ·)
  | .unit n :: rest =>
    if isLowSurrogate n then none
    else if isHighSurrogate n then
      match rest with
      | .unit m :: rest =>
        if isLowSurrogate m then
          (decodeChars rest).map (Char.ofNat (0x10000 + (n - 0xd800) * 0x400 + (m - 0xdc00)) :: ·)
        else none
      | _ => none
    else (decodeChars rest).map (Char.ofNat n :: ·)

/-- The text that pieces denote, unless a half of a surrogate pair stands alone. -/
def decode? (pieces : List Piece) : Option String :=
  (decodeChars pieces).map String.ofList

end JniBindings.Json

namespace JniBindings

/-! ### Values -/

/-- A JSON value as it is written, with the members of an object in their order. -/
inductive Json
  | null
  | boolean (value : Bool)
  | number (n : Json.Number)
  | string (pieces : List Json.Piece)
  | array (elements : List Json)
  | object (members : List (List Json.Piece × Json))

namespace Json

mutual

/-- How deep arrays and objects are nested. -/
def depth : Json → Nat
  | array elements => depthOfList elements + 1
  | object members => depthOfMembers members + 1
  | _ => 0

/-- The depth of the deepest element. -/
def depthOfList : List Json → Nat
  | [] => 0
  | v :: rest => max v.depth (depthOfList rest)

/-- The depth of the deepest member. -/
def depthOfMembers : List (List Piece × Json) → Nat
  | [] => 0
  | (_, v) :: rest => max v.depth (depthOfMembers rest)

end

mutual

/-- Every number and string in the value denotes something. -/
def denotes : Json → Bool
  | number n => n.value?.isSome
  | string pieces => (decode? pieces).isSome
  | array elements => denotesList elements
  | object members => denotesMembers members
  | _ => true

/-- Every element denotes something. -/
def denotesList : List Json → Bool
  | [] => true
  | v :: rest => v.denotes && denotesList rest

/-- Every key and every member denotes something. -/
def denotesMembers : List (List Piece × Json) → Bool
  | [] => true
  | (key, v) :: rest => (decode? key).isSome && v.denotes && denotesMembers rest

end

/-- The deepest nesting of arrays and objects that is read. -/
def depthLimit : Nat := 127

/-- Everything in the value denotes something, and it is not nested too deep where it stands inside
`level` arrays and objects. -/
def sound (level : Nat) (v : Json) : Bool :=
  v.denotes && level + v.depth ≤ depthLimit

end Json

end JniBindings
