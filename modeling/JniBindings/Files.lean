import JniBindings.Failure
import JniBindings.FileTree.Basic
/-!
# Access to files

`Files` is what a generation needs of the files around it. A `FileTree` in a state monad offers it,
and so does whatever else can look for files, read, create and write them.
-/

namespace JniBindings

/-- Looking for files, reading them, and creating folders and files. -/
class Files (m : Type → Type) where
  /-- The path names a file or folder that is there. -/
  isThere : Path → m Bool
  /-- The content of a file. -/
  read : Path → m (Except Absence ByteArray)
  /-- Creates the folders on a path that are not there, and says whether all are there then. -/
  createFolders : Path → m Bool
  /-- Writes a file, and says whether that was possible. -/
  write : Path → ByteArray → m Bool

/-- A tree as files around a generation. -/
instance : Files (StateM FileTree) where
  isThere p := return ((← get).find p).toBool
  read p := return (← get).read p
  createFolders p := modifyGet fun t => (t.createFolders p).swap
  write p content := modifyGet fun t => (t.write p content).swap

namespace Files

variable {m : Type → Type} [Monad m] [Files m]

/-- The text that some bytes encode. -/
def textOf (content : ByteArray) : Except Failure String :=
  match String.fromUTF8? content with
  | some text => .ok text
  | none => .error .io

/-- A text can be read back from the bytes that encode it. -/
theorem textOf_toUTF8 (text : String) : textOf text.toUTF8 = .ok text := by
  have h : String.fromUTF8? text.toUTF8 = some text := dif_pos text.isValidUTF8
  unfold textOf
  rw [h]

/-- The content of a file that has to be there. -/
def readBytes (p : Path) : m (Except Failure ByteArray) :=
  return (← Files.read p).mapError fun _ => .io

/-- The text of a file that has to be there. -/
def readText (p : Path) : m (Except Failure String) :=
  return (← readBytes p).bind textOf

/-- The text of a file, or no text at all if it is not there. -/
def readTextOrEmpty (p : Path) : m (Except Failure String) := do
  match ← Files.read p with
  | .error .missing => return .ok ""
  | content => return (content.mapError fun _ => .io).bind textOf

end Files

end JniBindings
