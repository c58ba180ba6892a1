import JniBindings.Text.CodePoint
/-!
# Symbols of native methods

The virtual machine looks up a native method under a symbol made from the names of its class and
itself, and for overloaded methods also from the descriptors of its parameters. Symbols consist of
ASCII letters, digits and underscores, so an underscore is written `_1`, and other characters are
written `_` and their code point.
-/

namespace JniBindings.Symbol

/-- A character of a name. -/
def escapeChar (c : Char) : List Char :=
  if c = '_' then ['_', '1']
  else if c.isAlphanum then [c]
  else '_' :: Text.codePoint c

/-- A character of a dotted class name; a dot becomes an underscore. -/
def classChar (c : Char) : List Char :=
  if c = '.' then ['_'] else escapeChar c

/-- A character of a descriptor in a symbol. -/
def descriptorChar (c : Char) : List Char :=
  if c = ';' then ['_', '2']
  else if c = '[' then ['_', '3']
  else if c = '/' then ['_']
  else escapeChar c

/-- A character of a descriptor in the suffix of an overloaded function; here arrays have no short
form. -/
def tokenChar (c : Char) : List Char :=
  if c = '/' then ['_']
  else if c = ';' then ['_', '2']
  else escapeChar c

/-- A text written character by character. -/
def write (char : Char → List Char) (s : String) : String :=
  String.ofList (s.toList.flatMap char)

/-- A name in a symbol. -/
def escape (name : String) : String := write escapeChar name

/-- A dotted class name in a symbol. -/
def className (name : String) : String := write classChar name

/-- Parameter descriptors as the suffix of an overloaded function. -/
def token (descriptor : String) : String := write tokenChar descriptor

/-- The symbol of a method that is not overloaded; the class is given as in a symbol. -/
def short (className methodName : String) : String :=
  "Java_" ++ className ++ "_" ++ escape methodName

/-- The symbol of an overloaded method with given parameter descriptors. -/
def long (className methodName descriptor : String) : String :=
  short className methodName ++ "__" ++ write descriptorChar descriptor

end JniBindings.Symbol
