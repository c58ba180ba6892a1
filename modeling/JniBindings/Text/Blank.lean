/-!
# White space

`isBlank` holds of the characters with the Unicode property `White_Space`, and `trim` takes them
off both ends of a text. The zero-width characters U+200B and U+FEFF are not among them.
-/

namespace JniBindings.Text

/-- The characters with the Unicode property `White_Space`. -/
def isBlank (c : Char) : Bool :=
  let n := c.toNat
  (0x9 ≤ n && n ≤ 0xd) || n = 0x20 || n = 0x85 || n = 0xa0 || n = 0x1680
    || (0x2000 ≤ n && n ≤ 0x200a) || n = 0x2028 || n = 0x2029 || n = 0x202f || n = 0x205f
    || n = 0x3000

/-- White space taken off the end. -/
def trimEndList (s : List Char) : List Char :=
  (s.reverse.dropWhile isBlank).reverse

/-- White space taken off both ends. -/
def trimList (s : List Char) : List Char :=
  trimEndList (s.dropWhile isBlank)

/-- White space taken off both ends of a text. -/
def trim (s : String) : String :=
  String.ofList (trimList s.toList)

end JniBindings.Text
