import JniBindings.JavaType.Descriptor
import JniBindings.Text.Alphanumeric
import JniBindings.Text.Blank
/-!
# Java spellings

`JavaType.ofSpelling` reads a type as Java source spells it: a name, type arguments, pairs of
brackets, and the dots of a variable parameter, in this order. Type arguments are erased, and the
dots count as one more array level. `JavaType.spelling` writes such a text.
-/

namespace JniBindings

/-- The character may stand in a dotted class name. -/
def isNameChar (c : Char) : Bool :=
  Text.isAlphanumeric c || c = '_' || c = '$' || c = '.'

/-- What follows the bracket that closes the group around `depth` inner groups. -/
def afterTypeArguments? : Nat → List Char → Option (List Char)
  | _, [] => none
  | depth, '<' :: rest => afterTypeArguments? (depth + 1) rest
  | 0, '>' :: rest => some rest
  | depth + 1, '>' :: rest => afterTypeArguments? depth rest
  | depth, _ :: rest => afterTypeArguments? depth rest

/-- Leaves out a group of type arguments, if the text begins with one. -/
def skipTypeArguments : List Char → Except Stop (List Char)
  | '<' :: rest => match afterTypeArguments? 0 rest with
    | some rest => .ok rest
    | none => .error .endOfText
  | s => .ok s

/-- Counts the pairs of brackets at the front of a text. -/
def readBrackets : List Char → Except Stop (Nat × List Char)
  | '[' :: ']' :: rest => do
    let (n, rest) ← readBrackets rest
    pure (n + 1, rest)
  | ['['] => .error .endOfText
  | '[' :: _ :: _ => .error .character
  | s => .ok (0, s)

/-- The three dots of a variable parameter. -/
def dots : List Char := ['.', '.', '.']

/-- Reads three dots from the front of a text, if it begins with a dot. -/
def readDots (s : List Char) : Except Stop (Bool × List Char) :=
  match Text.dropStart? dots s with
  | some rest => .ok (true, rest)
  | none =>
    if s.head? ≠ some '.' then .ok (false, s)
    else if s.all (· = '.') then .error .endOfText
    else .error .character

/-- A name without three dots at its end, if it has them. -/
def dropDots? (name : List Char) : Option (List Char) :=
  (Text.dropStart? dots name.reverse).map List.reverse

namespace JavaType

/-- The type that a name without arguments, brackets and dots stands for. -/
def named (name : String) : JavaType :=
  match Primitive.ofKeyword? name with
  | some p => primitive p
  | none => if name = "null" then null else declared name

/-- Reads a spelling from the front of a text. The dots of a variable parameter without brackets
are part of the name. -/
def readSpelling (s : List Char) : Except Stop (JavaType × List Char) := do
  let name := s.takeWhile isNameChar
  if name.isEmpty then
    .error (if s.isEmpty then .endOfText else .character)
  else
    let rest ← skipTypeArguments (s.dropWhile isNameChar)
    let (brackets, rest) ← readBrackets rest
    let (dotted, rest) ← readDots rest
    let levels := brackets + if dotted then 1 else 0
    match dropDots? name with
    | some name => pure ((named (String.ofList name)).arrayOf (levels + 1), rest)
    | none => pure ((named (String.ofList name)).arrayOf levels, rest)

/-- The type with a given spelling, around which white space may stand. -/
def ofSpelling (text : String) : Except Failure JavaType :=
  faultIn .typeName text (complete (readSpelling (Text.trimList text.toList)))

end JavaType

end JniBindings
