import JniBindings.ClassNames
import JniBindings.Config
import JniBindings.Constant
import JniBindings.NativeParameter
import JniBindings.Overload
/-!
# Glue of a class

The native methods of a class are functions of C++ that the virtual machine finds by their symbols
or is told about. `Glue.ofModel` collects what is written about them: one `NativeFunction` for each
native method, in the order of declaration.
-/

namespace JniBindings

/-- The function that stands for a native method. -/
structure NativeFunction where
  name : String
  symbol : String
  descriptor : String
  signature : String
  isStatic : Bool
  result : JavaType
  native : NativeType
  parameters : List NativeParameter
deriving DecidableEq, Repr

/-- The declaration of a function: its result, its symbol and its parameters, after the environment
and the receiver. -/
structure Prototype where
  result : NativeType
  symbol : String
  isStatic : Bool
  parameters : List NativeParameter
deriving DecidableEq, Repr

/-- A row of the table that tells the virtual machine which function stands for which method. -/
structure Registration where
  name : String
  descriptor : String
  symbol : String
deriving DecidableEq, Repr

/-- The definition of a function that only returns a zero, if it returns anything. -/
structure Stub where
  prototype : Prototype
  returned : Option String
deriving DecidableEq, Repr

/-- The glue of a class. -/
structure Glue where
  names : ClassNames
  config : Config
  headerName : String
  sourceName : String
  constants : List Constant
  functions : List NativeFunction
  warnings : List Warning
deriving DecidableEq, Repr

namespace NativeFunction

/-- The function of a native method. -/
def ofMethod (names : ClassNames) (m : Method) (overloaded : Bool) :
    Except Failure NativeFunction := do
  let descriptor ← m.descriptor none
  let symbol ←
    if overloaded then
      Symbol.long names.symbol m.name <$> JavaType.listDescriptor m.parameterTypes
    else pure (Symbol.short names.symbol m.name)
  let parameters ← NativeParameter.ofMethod m
  let native ← m.nativeResult
  pure { name := m.name
         symbol, descriptor
         signature := m.signature parameters names.simple
         isStatic := m.isStatic
         result := m.result
         native, parameters }

/-- The declaration of the function. -/
def prototype (f : NativeFunction) : Prototype :=
  ⟨f.native, f.symbol, f.isStatic, f.parameters⟩

/-- The row that registers the function. -/
def registration (f : NativeFunction) : Registration :=
  ⟨f.name, f.descriptor, f.symbol⟩

/-- The function before it is written. -/
def stub (f : NativeFunction) : Stub :=
  ⟨f.prototype, if f.native = .scalar .void then none else some f.result.zero⟩

end NativeFunction

namespace Glue

/-- The native methods of a class. -/
def nativeMethods (c : ClassModel) : List Method :=
  c.methods.filter Method.isNative

/-- The function that registers all others. -/
def registerName : String := "registerNativeFunctions"

/-- The glue of a class. -/
def ofModel (config : Config) (names : ClassNames) (c : ClassModel) : Except Failure Glue := do
  let methods := nativeMethods c
  let methodNames := methods.map Method.name
  let functions ← methods.mapM fun m =>
    NativeFunction.ofMethod names m (1 < occurrences m.name methodNames)
  let fileStart := config.namespacePath.fileStart ++ names.simple
  pure { names, config
         headerName := fileStart ++ ".h"
         sourceName := fileStart ++ ".cpp"
         constants := constantsOf c.fields [registerName]
         functions
         warnings := constantWarnings c.fields }

/-- The prototypes that the header declares. -/
def declared (g : Glue) : List Prototype := g.functions.map NativeFunction.prototype

/-- The functions that the source defines. -/
def defined (g : Glue) : List Stub := g.functions.map NativeFunction.stub

/-- The rows of the table of native methods. -/
def registrations (g : Glue) : List Registration := g.functions.map NativeFunction.registration

end Glue

end JniBindings
