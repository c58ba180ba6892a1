import JniBindings.Text.Blank
import JniBindings.Text.Segments
/-!
# Namespaces of C++

A `Namespace` is a path such as `a::b`; the empty path is the global namespace.
-/

namespace JniBindings

/-- The segments of a namespace path. -/
structure Namespace where
  segments : List String
deriving DecidableEq, Repr

namespace Namespace

/-- The parts of a text between pairs of colons. -/
def parts : List Char → List (List Char)
  | [] => [[]]
  | ':' :: ':' :: rest => [] :: parts rest
  | c :: rest => match parts rest with
    | [] => [[c]]
    | part :: others => (c :: part) :: others

/-- The namespace that a text names. White space around segments and empty segments do not
count. -/
def ofText (text : String) : Namespace :=
  ⟨((parts text.toList).map Text.trimList).filterMap fun part =>
    if part.isEmpty then none else some (String.ofList part)⟩

/-- The global namespace. -/
def isGlobal (n : Namespace) : Bool := n.segments.isEmpty

/-- The path, `a::b`. -/
def path (n : Namespace) : String := Text.joinWith "::" n.segments

/-- What opens the namespace. -/
def opening (n : Namespace) : String :=
  Text.joinWith " " (n.segments.map fun s => "namespace " ++ s ++ " \x7b")

/-- What closes the namespace. -/
def closing (n : Namespace) : String :=
  if n.isGlobal then ""
  else Text.joinWith " " (n.segments.map fun _ => "\x7d") ++ " // endof namespace " ++ n.path

/-- What the names of generated files begin with, `a_b_`. -/
def fileStart (n : Namespace) : String :=
  Text.concat (n.segments.map (· ++ "_"))

/-- A name in the namespace, `a::b::Name`. -/
def qualify (n : Namespace) (name : String) : String :=
  if n.isGlobal then name else n.path ++ "::" ++ name

end Namespace

end JniBindings
