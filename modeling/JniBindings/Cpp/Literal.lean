import JniBindings.Decimal.Double
/-!
# Literals of C++

How texts, characters and numbers are written in C++ source. Control characters in a text are
written with three octal digits, which a digit after them cannot extend, and no two question marks
stand together.
-/

namespace JniBindings.Cpp

/-- The octal digit for a number below eight. -/
def octalDigit (n : Nat) : Char := Char.ofNat ('0'.toNat + n % 8)

/-- A character in a string literal. -/
def stringChar (c : Char) : List Char :=
  if c = '"' then ['\\', '"']
  else if c = '\\' then ['\\', '\\']
  else if c = '\n' then ['\\', 'n']
  else if c = '\r' then ['\\', 'r']
  else if c = '\t' then ['\\', 't']
  else if c = '?' then ['\\', '?']
  else if c.toNat < 0x20 || c.toNat = 0x7f then
    ['\\', octalDigit (c.toNat / 64), octalDigit (c.toNat / 8), octalDigit c.toNat]
  else [c]

/-- The text between the quotes of a string literal. -/
def stringBody (s : String) : String :=
  String.ofList (s.toList.flatMap stringChar)

/-- A string literal for a text that is already written as one. -/
def quoted (body : String) : String := "\"" ++ body ++ "\""

/-- A literal of type `char`, or the code point of a character that is not printable ASCII. -/
def charLiteral (c : Char) : String :=
  if c = '\x27' || c = '\\' then String.ofList ['\x27', '\\', c, '\x27']
  else if 0x20 ≤ c.toNat && c.toNat ≤ 0x7e then String.ofList ['\x27', c, '\x27']
  else toString c.toNat

/-- A literal of type `int`. There are no negative literals, so the least number is a difference. -/
def intLiteral (n : Int) : String :=
  if n = -2147483648 then "(-2147483647 - 1)" else toString n

/-- A literal of type `long long`. -/
def longLiteral (n : Int) : String :=
  if n = -9223372036854775808 then "(-9223372036854775807LL - 1)" else toString n ++ "LL"

/-- A literal of type `double`. -/
def doubleLiteral (x : Float) : String := Decimal.render x

/-- A literal of type `float`. -/
def floatLiteral (x : Float) : String := Decimal.render x ++ "f"

end JniBindings.Cpp
