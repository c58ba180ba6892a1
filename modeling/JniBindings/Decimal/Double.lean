import JniBindings.Decimal.Shortest
/-!
# Doubles as text

`Decimal.render` writes a double with the fewest digits that read back, positionally or with an
exponent as `Layout.plain` says. `Decimal.read?` reads a decimal text as the nearest double.
-/

namespace JniBindings.Decimal

/-- A double taken apart: `finite` stands for `± mantissa · 2 ^ exponent`. -/
inductive Parts
  | notANumber
  | infinite (negative : Bool)
  | finite (negative : Bool) (mantissa : Nat) (exponent : Int)
deriving DecidableEq, Repr

/-- The parts of a double, by its bits: a sign, eleven bits of exponent, 52 of fraction. -/
def Parts.ofFloat (x : Float) : Parts :=
  let bits := x.toBits.toNat
  let negative : Bool := bits / Nat.pow 2 63 = 1
  let exponent : Nat := bits / Nat.pow 2 52 % Nat.pow 2 11
  let fraction : Nat := bits % Nat.pow 2 52
  if exponent = 2047 then
    if fraction = 0 then .infinite negative else .notANumber
  else if exponent = 0 then .finite negative fraction (-1074)
  else .finite negative (Nat.pow 2 52 + fraction) (Int.ofNat exponent - 1075)

/-- Where positional notation ends, and how an exponent is marked. -/
structure Layout where
  leastPositional : Int
  leastExponential : Int
  mark : String

/-- Numbers from `1e-4` up to but excluding `1e16` are written positionally. -/
def Layout.plain : Layout := ⟨-4, 16, "e"⟩

/-- The digits of a positive decimal laid out, with a digit on each side of a point. -/
def Layout.place (layout : Layout) (x : Scientific) : String :=
  let digits := Nat.toDigits 10 x.significand
  let order : Int := x.exponent + digits.length - 1
  if order < layout.leastPositional || layout.leastExponential ≤ order then
    let fraction := digits.drop 1
    String.ofList (digits.take 1)
      ++ (if fraction.isEmpty then "" else "." ++ String.ofList fraction)
      ++ layout.mark ++ toString order
  else if order < 0 then
    "0." ++ String.ofList (List.replicate (-order - 1).toNat '0' ++ digits)
  else
    let whole := digits ++ List.replicate x.exponent.toNat '0'
    let cut := order.toNat + 1
    String.ofList (whole.take cut) ++ "."
      ++ (if whole.length ≤ cut then "0" else String.ofList (whole.drop cut))

/-- A double as text. -/
def render (x : Float) : String :=
  match Parts.ofFloat x with
  | .notANumber => "NaN"
  | .infinite negative => if negative then "-inf" else "inf"
  | .finite negative mantissa exponent =>
    (if negative then "-" else "")
      ++ (if mantissa = 0 then "0.0"
        else Layout.plain.place (Rounding.ofFinite mantissa exponent).shortest)

/-- The double is neither infinite nor not a number. -/
def isFinite (x : Float) : Bool :=
  match Parts.ofFloat x with
  | .finite .. => true
  | _ => false

/-- The double nearest to `significand · 10 ^ exponent`. Far beyond the range of doubles that is
infinity or zero. -/
def nearest (significand : Nat) (exponent : Int) : Float :=
  let order : Int := (Nat.toDigits 10 significand).length + exponent
  if significand = 0 || order < -400 then 0.0
  else if 400 < order then 1.0 / 0.0
  else Float.ofScientific significand (exponent < 0) exponent.natAbs

/-- The value of a run of decimal digits that follows the digits of `seen`. -/
def digitsValue (seen : Nat) (digits : List Char) : Nat :=
  digits.foldl (fun n c => 10 * n + (c.toNat - '0'.toNat)) seen

/-- A signed decimal integer of at least one digit. -/
def readExponent? (s : List Char) : Option Int :=
  let (negative, digits) := match s with
    | '-' :: rest => (true, rest)
    | '+' :: rest => (false, rest)
    | rest => (false, rest)
  if digits.isEmpty || !digits.all Char.isDigit then none
  else
    let n : Int := digitsValue 0 digits
    some (if negative then -n else n)

/-- An unsigned decimal: digits with an optional point, then an optional exponent. -/
def readUnsigned? (s : List Char) : Option Float :=
  let whole := s.takeWhile Char.isDigit
  let rest := s.dropWhile Char.isDigit
  let (fraction, rest) := match rest with
    | '.' :: rest => (rest.takeWhile Char.isDigit, rest.dropWhile Char.isDigit)
    | rest => ([], rest)
  let exponent? := match rest with
    | [] => some 0
    | c :: rest => if c = 'e' || c = 'E' then readExponent? rest else none
  if whole.isEmpty && fraction.isEmpty then none
  else exponent?.map fun exponent =>
    nearest (digitsValue (digitsValue 0 whole) fraction) (exponent - fraction.length)

/-- The double nearest to a decimal text; `inf`, `infinity` and `nan` are read in either case. -/
def read? (s : String) : Option Float :=
  let (negative, body) := match s.toList with
    | '-' :: rest => (true, rest)
    | '+' :: rest => (false, rest)
    | rest => (false, rest)
  let word := String.ofList (body.map Char.toLower)
  let value := if word = "inf" || word = "infinity" then some (1.0 / 0.0)
    else if word = "nan" then some (0.0 / 0.0)
    else readUnsigned? body
  value.map fun x => if negative then -x else x

end JniBindings.Decimal
