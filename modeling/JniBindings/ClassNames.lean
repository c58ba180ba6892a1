import JniBindings.ClassModel
import JniBindings.Failure
import JniBindings.Identifier
import JniBindings.Symbol
import JniBindings.Text.Blank
/-!
# Names of a class

`ClassNames.ofModel` derives every form of a class's name that generated files use. A model without
a usable name is refused.
-/

namespace JniBindings

/-- The forms of a class's name: `simple` as an identifier, `qualified` with dots, `slashed` as the
virtual machine writes it, `symbol` as in the symbols of native methods, and `proxy` for the
generated class. -/
structure ClassNames where
  simple : String
  qualified : String
  slashed : String
  symbol : String
  proxy : String
  enclosingInstance : Option JavaType
deriving DecidableEq, Repr

namespace ClassNames

/-- Stands at the end of the name of every proxy class. -/
def proxyEnding : String := "Proxy"

/-- The characters that no dotted class name has. -/
def isForeignChar (c : Char) : Bool := c = '/' || c = ';' || c = '[' || c = ' '

/-- The names of a class. White space around its qualified and its simple name does not count. -/
def ofModel (c : ClassModel) : Except Failure ClassNames :=
  let qualified := Text.trim c.name
  let given := Text.trim c.simpleName
  if qualified.isEmpty then .error (.invalidModel .noQualifiedName)
  else if given.isEmpty then .error (.invalidModel (.noSimpleName qualified))
  else if qualified.toList.any isForeignChar then
    .error (.invalidModel (.notBinaryName qualified))
  else
    let simple := identifier given
    .ok {
      simple, qualified
      slashed := Text.replaceChar '.' '/' qualified
      symbol := Symbol.className qualified
      proxy := simple ++ proxyEnding
      enclosingInstance := c.enclosingInstance }

/-- The class is an inner class. -/
def isInner (names : ClassNames) : Bool := names.enclosingInstance.isSome

end ClassNames

end JniBindings
