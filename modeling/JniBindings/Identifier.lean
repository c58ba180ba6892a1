import JniBindings.Text.CodePoint
/-!
# Identifiers of C++

`identifier` turns a Java name into an identifier, and `isReserved` says which identifiers no
generated function may have.
-/

namespace JniBindings

/-- The character may stand in an identifier. -/
def isWordChar (c : Char) : Bool := c.isAlphanum || c = '_'

/-- A character of a name in an identifier. -/
def identifierChar (c : Char) : List Char :=
  if isWordChar c then [c] else '_' :: Text.codePoint c

/-- A Java name as an identifier. Names of letters, digits and underscores stay as they are. -/
def identifier (name : String) : String :=
  String.ofList (name.toList.flatMap identifierChar)

/-- The keywords of C++ and what else the language or its libraries give a meaning to. -/
def keywords : List String := [
  "alignas", "alignof", "and", "and_eq", "asm", "auto", "bitand", "bitor", "bool", "break",
  "case", "catch", "char", "char8_t", "char16_t", "char32_t", "class", "compl", "concept",
  "const", "consteval", "constexpr", "constinit", "const_cast", "continue", "co_await",
  "co_return", "co_yield", "decltype", "default", "delete", "do", "double", "dynamic_cast",
  "else", "enum", "explicit", "export", "extern", "false", "float", "for", "friend", "goto",
  "if", "inline", "int", "long", "mutable", "namespace", "new", "noexcept", "not", "not_eq",
  "nullptr", "operator", "or", "or_eq", "private", "protected", "public", "register",
  "reinterpret_cast", "requires", "return", "short", "signed", "sizeof", "static",
  "static_assert", "static_cast", "struct", "switch", "template", "this", "thread_local",
  "throw", "true", "try", "typedef", "typeid", "typename", "union", "unsigned", "using",
  "virtual", "void", "volatile", "wchar_t", "while", "xor", "xor_eq", "NULL", "assert"]

/-- The names of what every proxy has. -/
def proxyNames : List String := [
  "initClazz", "releaseClazz", "assertInited", "getClassInitState", "newInstance", "getThis",
  "FULL_CLASS_NAME"]

/-- The name is not free for a generated function. -/
def isReserved (name : String) : Bool :=
  keywords.contains name || proxyNames.contains name

end JniBindings
