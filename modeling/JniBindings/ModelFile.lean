import JniBindings.ClassFile.Model
import JniBindings.Files
import JniBindings.SymbolTable
/-!
# Files with class models

A class model is read from a class file or from a symbol table, which may hold several. The
extension of a file's name tells them apart.
-/

namespace JniBindings

namespace ClassModel

variable {m : Type → Type} [Monad m] [Files m]

/-- The class that a class file describes. -/
def loadClassFile (p : Path) : m (Except Failure ClassModel) :=
  return (← Files.readBytes p).bind fun content => ofClassFile content.toList

/-- The classes that a file with a symbol table describes. -/
def loadSymbolTable (p : Path) : m (Except Failure (List ClassModel)) :=
  return (← Files.readText p).bind listOfJson

/-- The extension of class files. -/
def classFileExtension : String := "class"

/-- The classes that a file of either kind describes. -/
def load (p : Path) : m (Except Failure (List ClassModel)) :=
  if p.extension? = some classFileExtension then
    return (← loadClassFile p).map fun model => [model]
  else loadSymbolTable p

end ClassModel

end JniBindings
