/-!
# Code points in hexadecimal

A code point is written in lower-case hexadecimal digits, with zeros in front up to five digits.
Since no code point lies above U+10FFFF, the only other width is six digits.
-/

namespace JniBindings.Text

/-- The lower-case hexadecimal digit for a number below sixteen. -/
def hexDigit (n : Nat) : Char :=
  if n < 10 then Char.ofNat ('0'.toNat + n) else Char.ofNat ('a'.toNat + (n - 10))

/-- The five lowest hexadecimal digits of a number. -/
def fiveHexDigits (n : Nat) : List Char :=
  [hexDigit (n / 0x10000 % 16), hexDigit (n / 0x1000 % 16), hexDigit (n / 0x100 % 16),
    hexDigit (n / 0x10 % 16), hexDigit (n % 16)]

/-- A code point in five hexadecimal digits, or in six from U+100000 on. -/
def codePoint (c : Char) : List Char :=
  if c.toNat < 0x100000 then fiveHexDigits c.toNat
  else hexDigit (c.toNat / 0x100000) :: fiveHexDigits c.toNat

end JniBindings.Text
