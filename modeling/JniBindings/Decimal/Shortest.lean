/-!
# The shortest decimal that reads back

A positive double stands for every real number that rounds to it. `Rounding.ofFinite` gives that
interval exactly, as fractions over one denominator, and `Rounding.shortest` picks the decimal
with the fewest digits inside it; of several the nearest to the double itself, and of two equally
near ones the larger.
-/

namespace JniBindings.Decimal

/-- A positive number `significand · 10 ^ exponent`. -/
structure Scientific where
  significand : Nat
  exponent : Int
deriving DecidableEq, Repr

/-- A positive double with the interval of numbers that round to it: `value`, `low` and `high` are
numerators over `denominator`, and `closed` says whether the ends belong to the interval. -/
structure Rounding where
  value : Nat
  low : Nat
  high : Nat
  denominator : Nat
  closed : Bool

/-- The interval of the double `mantissa · 2 ^ exponent`. The gap below is half as wide as the one
above where the mantissa is the least of its binade. -/
def Rounding.ofFinite (mantissa : Nat) (exponent : Int) : Rounding :=
  let scale := Nat.pow 2 exponent.toNat
  let below := if mantissa = Nat.pow 2 52 ∧ exponent ≠ -1074 then 1 else 2
  { value := 4 * mantissa * scale
    low := (4 * mantissa - below) * scale
    high := (4 * mantissa + 2) * scale
    denominator := 4 * Nat.pow 2 (-exponent).toNat
    closed := mantissa % 2 = 0 }

/-- The fraction `n / d` compared with a decimal: `n · 10 ^ down` and `d · significand · 10 ^ up`
for the two non-negative parts of its exponent. -/
def Rounding.holds (r : Rounding) (x : Scientific) : Bool :=
  let up := Nat.pow 10 x.exponent.toNat
  let down := Nat.pow 10 (-x.exponent).toNat
  let point := r.denominator * x.significand * up
  if r.closed then r.low * down ≤ point && point ≤ r.high * down
  else r.low * down < point && point < r.high * down

/-- The value lies below `10 ^ e`. -/
def Rounding.isBelowPower (r : Rounding) (e : Int) : Bool :=
  r.value * Nat.pow 10 (-e).toNat < r.denominator * Nat.pow 10 e.toNat

/-- The least `e` for which the value lies below `10 ^ e`, for a double. -/
def Rounding.magnitude (r : Rounding) : Int :=
  match (List.range 640).find? fun i : Nat => r.isBelowPower (Int.ofNat i - 325) with
  | some i => Int.ofNat i - 325
  | none => 315

/-- The decimal in the interval nearest to the value among those with the given exponent. -/
def Rounding.nearest? (r : Rounding) (exponent : Int) : Option Scientific :=
  let up := Nat.pow 10 exponent.toNat
  let down := Nat.pow 10 (-exponent).toNat
  let step := r.denominator * up
  let floor := r.value * down / step
  let rest := r.value * down % step
  let lower : Scientific := ⟨floor, exponent⟩
  let upper : Scientific := ⟨floor + 1, exponent⟩
  match r.holds lower, r.holds upper with
  | true, true => some (if 2 * rest < step then lower else upper)
  | true, false => some lower
  | false, true => some upper
  | false, false => none

/-- Zeros at the end of a significand moved into the exponent. -/
def Scientific.normalize (x : Scientific) : Scientific :=
  if h : x.significand ≠ 0 ∧ x.significand % 10 = 0 then
    Scientific.normalize ⟨x.significand / 10, x.exponent + 1⟩
  else x
termination_by x.significand
decreasing_by exact Nat.div_lt_self (Nat.pos_of_ne_zero h.1) (by decide)

/-- The shortest decimal in the interval. Seventeen digits always suffice for a double. -/
def Rounding.shortest (r : Rounding) : Scientific :=
  let top := r.magnitude
  match (List.range 17).findSome? fun n : Nat => r.nearest? (top - Int.ofNat (n + 1)) with
  | some x => x.normalize
  | none => ⟨r.value, 0⟩

end JniBindings.Decimal
