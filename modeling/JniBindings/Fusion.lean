import JniBindings.GeneratedFile
import JniBindings.Cpp.Literal
import JniBindings.Failure
import JniBindings.Identifier
import JniBindings.Namespace
/-!
# The fusion header

The fusion header defines one function that initialises all proxies. It is its own memory: the
proxies that it initialises are read back from the terms between two marked lines. `Fusion.parse`
reads a header and `Fusion.render` writes one; `Fusion.merge` adds a proxy to a header.
-/

namespace JniBindings

/-- A proxy to be initialised: the path of its namespace, its name, and the header that declares
it. -/
structure FusionEntry where
  namespacePath : String
  className : String
  header : String
deriving DecidableEq, Repr

/-- A term of the fusion header: the path of a namespace, and the name of a proxy in it. -/
structure FusionTerm where
  namespacePath : String
  className : String
deriving DecidableEq, Repr

/-- What a fusion header includes and initialises, in the order in which it was added. -/
structure Fusion where
  includes : List String
  terms : List FusionTerm
deriving DecidableEq, Repr

namespace Fusion

/-- A header that initialises nothing. -/
def empty : Fusion := ⟨[], []⟩

/-- Stands in the line in front of the terms. -/
def beginMarker : String := "// begin-init-block"

/-- Stands in the line after the terms. -/
def endMarker : String := "// end-init-block"

/-! ### Reading -/

/-- Adds an element to the end of a list, unless the list has it already. -/
def addNew {α : Type} [DecidableEq α] (xs : List α) (x : α) : List α :=
  if x ∈ xs then xs else xs ++ [x]

/-- The file that a line includes by a name in quotes. What follows the name does not count. -/
def includedName? (line : List Char) : Option String := do
  let rest ← Text.dropStart? "#include".toList line
  match rest.dropWhile Text.isBlank with
  | [] => none
  | c :: rest =>
    let name := rest.takeWhile (· ≠ '"')
    if c = '"' && !name.isEmpty && !(rest.dropWhile (· ≠ '"')).isEmpty then
      some (String.ofList name)
    else none

/-- What follows a given ending is nothing: the text in front of it. -/
def dropEnd? (ending s : List Char) : Option (List Char) :=
  (Text.dropStart? ending.reverse s.reverse).map List.reverse

/-- The segments of the path that a term calls. -/
def calledPath? (line : List Char) : Option (List String) := do
  let rest ← Text.dropStart? "&&".toList line
  let rest := rest.dropWhile Text.isBlank
  let rest := (Text.dropStart? "::".toList rest).getD rest
  let path ← dropEnd? "(env)".toList (Text.trimEndList rest)
  let segments := Namespace.parts path
  if segments.all fun s => !s.isEmpty && s.all isWordChar then
    some (segments.map String.ofList)
  else none

/-- The function that a term calls. -/
def initName : String := "initClazz"

/-- The term on a line: a path that ends in the name of a proxy and its function. -/
def termOfLine (line : List Char) : Except Failure FusionTerm :=
  match (calledPath? line).map List.reverse with
  | some (function :: className :: outer) =>
    if function = initName then .ok ⟨Text.joinWith "::" outer.reverse, className⟩
    else .error (.malformed (.strayInitLine (String.ofList line)))
  | _ => .error (.malformed (.strayInitLine (String.ofList line)))

/-- The lines of a text without the white space around them. -/
def trimmedLines (s : List Char) : List (List Char) :=
  (Text.lines s).map Text.trimList

/-- The files that a text includes. -/
def includesOf (s : List Char) : List String :=
  ((trimmedLines s).filterMap includedName?).foldl addNew []

/-- What a header includes and initialises. A text without marked lines initialises nothing. -/
def parse (content : String) : Except Failure Fusion :=
  let s := content.toList
  let includes := includesOf s
  match Text.cutAt beginMarker.toList s with
  | none => .ok ⟨includes, []⟩
  | some (_, block) =>
    match Text.cutAt endMarker.toList block with
    | none => .error (.malformed .unclosedInitBlock)
    | some (block, _) => do
      let terms ← ((trimmedLines block).filter (!·.isEmpty)).mapM termOfLine
      pure ⟨includes, terms.foldl addNew []⟩

/-! ### Writing -/

/-- The expression that initialises a proxy. -/
def FusionTerm.call (t : FusionTerm) : String :=
  "::" ++ (Namespace.ofText t.namespacePath).qualify t.className ++ "::" ++ initName ++ "(env)"

/-- What stands in front of the lines that include files. -/
def opening : String := notice ++ "#pragma once\n\n#include <jni.h>\n"

/-- The line that includes a file. -/
def includeLine (name : String) : String := "#include " ++ Cpp.quoted name

/-- What stands between the files and the terms. -/
def functionStart : String :=
  "\nnamespace jnicpp \x7b\n\n"
    ++ "inline bool initAllProxies(JNIEnv* env) \x7b\n"
    ++ "    bool success = true\n"

/-- What stands in front of markers and terms. -/
def indent : String := "            "

/-- The line of a term. -/
def termLine (t : FusionTerm) : String := "&& " ++ FusionTerm.call t

/-- What stands after the terms. -/
def functionEnd : String :=
  "            ;\n"
    ++ "    return success;\n"
    ++ "\x7d\n\n"
    ++ "\x7d // endof namespace jnicpp\n"

/-- The fusion header. -/
def render (f : Fusion) : String :=
  opening
    ++ Text.concat (f.includes.map fun name => includeLine name ++ "\n")
    ++ functionStart
    ++ indent ++ beginMarker ++ "\n"
    ++ Text.concat (f.terms.map fun t => indent ++ termLine t ++ "\n")
    ++ indent ++ endMarker ++ "\n"
    ++ functionEnd

/-! ### Adding proxies -/

/-- The term of an entry. -/
def termOf (entry : FusionEntry) : FusionTerm := ⟨entry.namespacePath, entry.className⟩

/-- The header initialises a proxy. -/
def contains (f : Fusion) (t : FusionTerm) : Bool := f.terms.contains t

/-- Adds a proxy and its header, each unless it is there already. -/
def insert (f : Fusion) (entry : FusionEntry) : Fusion :=
  ⟨addNew f.includes entry.header, addNew f.terms (termOf entry)⟩

/-- A text with a proxy added to what it initialises. -/
def merge (existing : String) (entry : FusionEntry) : Except Failure String := do
  let f ← parse existing
  pure (f.insert entry).render

end Fusion

end JniBindings
