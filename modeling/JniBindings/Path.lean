import JniBindings.Text.Segments
/-!
# Paths

A `Path` is the text by which a file or folder is named. Its `steps` are the names that lead there:
empty segments and single dots lead nowhere, and two dots lead back.
-/

namespace JniBindings

/-- The text that names a file or folder. -/
structure Path where
  text : String
deriving DecidableEq, Repr

namespace Path

/-- The path begins at the root folder. -/
def isAbsolute (p : Path) : Bool := p.text.toList.head? = some '/'

/-- The parts between slashes. -/
def segments (p : Path) : List String :=
  (Text.splitOn '/' p.text.toList).map String.ofList

/-- The segment is a step. -/
def isStep (segment : String) : Bool := segment ≠ "" && segment ≠ "."

/-- The steps of a path. -/
def steps (p : Path) : List String := p.segments.filter isStep

/-- The path ends in a way that only the path of a folder may end. -/
def namesFolder (p : Path) : Bool := (p.segments.getLast?.map isStep) ≠ some true

/-- Two paths with the same steps. -/
def same (p q : Path) : Bool := p.isAbsolute = q.isAbsolute && p.steps = q.steps

/-- The path of a name in a folder. An absolute name stays as it is. -/
def join (folder : Path) (name : String) : Path :=
  if (Path.mk name).isAbsolute || folder.text.isEmpty then ⟨name⟩
  else if folder.text.toList.getLast? = some '/' then ⟨folder.text ++ name⟩
  else ⟨folder.text ++ "/" ++ name⟩

/-- What follows the last dot of a name; a dot at the start of a name does not count. -/
def extensionOf? (name : String) : Option String :=
  match name.toList.reverse.span (· ≠ '.') with
  | (ending, _ :: _ :: _) => if name = ".." then none else some (String.ofList ending.reverse)
  | _ => none

/-- The extension of the last step. -/
def extension? (p : Path) : Option String := p.steps.getLast?.bind extensionOf?

end Path

end JniBindings
