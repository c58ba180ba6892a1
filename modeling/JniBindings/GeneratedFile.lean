/-!
# Generated files

A generated class has a header and possibly a source file. Every generated file begins with
`notice`.
-/

namespace JniBindings

/-- Stands at the top of every generated file. -/
def notice : String :=
  "/**\n"
    ++ " * Generated by jni-cppgen. Do not edit: changes are lost when the file is regenerated.\n"
    ++ " */\n"

/-- A file by its name in the output directory. -/
structure GeneratedFile where
  name : String
  content : String
deriving DecidableEq, Repr

/-- What is generated for one class. -/
structure GeneratedClass where
  header : GeneratedFile
  source : Option GeneratedFile
deriving DecidableEq, Repr

/-- The files of a class, the header first. -/
def GeneratedClass.files (c : GeneratedClass) : List GeneratedFile :=
  c.header :: c.source.toList

/-- A text followed by a line feed, unless it is empty. -/
def lineOf (text : String) : String :=
  if text.isEmpty then "" else text ++ "\n"

end JniBindings
