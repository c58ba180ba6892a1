import JniBindings.Identifier
import JniBindings.JavaType.Native
import JniBindings.Member
import JniBindings.Text.Blank
/-!
# Parameters in C++

A Java parameter becomes a C++ parameter with a name that clashes neither with a keyword nor with
what generated functions declare themselves. A function passes references on either as they are or,
in helper style, in the wrappers of the helper header.
-/

namespace JniBindings

/-- How functions take references: as raw handles, or in wrappers. -/
inductive Style
  | raw
  | helper
deriving DecidableEq, Repr

/-- A parameter of a generated function. -/
structure NativeParameter where
  name : String
  type : JavaType
  native : NativeType
deriving DecidableEq, Repr

/-- The C++ type of a parameter: that of a wrapped reference, or the native type itself. -/
inductive PassedType
  | plain (native : NativeType)
  | wrapped (native : NativeType)
deriving DecidableEq, Repr

/-- The wrapper of a local reference. -/
def wrapper (nativeName : String) : String := "::jnicpp::LocalRef<" ++ nativeName ++ ">"

/-- The C++ type as it is written in front of the name of a parameter. -/
def PassedType.text : PassedType → String
  | plain native => native.name
  | wrapped native => "const " ++ wrapper native.name ++ "&"

namespace NativeParameter

/-- The parameter is a reference. -/
def isObject (p : NativeParameter) : Bool := !p.type.isPrimitive

/-- The C++ type in a style. -/
def passedType (p : NativeParameter) (style : Style) : PassedType :=
  if style = .helper && p.isObject then .wrapped p.native else .plain p.native

/-- The declaration in a style. -/
def declaration (p : NativeParameter) (style : Style) : String :=
  (p.passedType style).text ++ " " ++ p.name

/-- The expression that passes the parameter on. -/
def argument (p : NativeParameter) (style : Style) : String :=
  if style = .helper && p.isObject then p.name ++ ".get()" else p.name

/-- The names that generated functions declare themselves. -/
def generatedNames : List String := ["env", "thiz", "clazz", "enclosingClass", "state"]

/-- The name of a parameter at a position. A blank name is replaced by the position. -/
def nameAt (name : String) (position : Nat) : String :=
  let trimmed := Text.trim name
  let name := if trimmed.isEmpty then "arg" ++ toString position else identifier trimmed
  if isReserved name || generatedNames.contains name then name ++ "_" else name

/-- A Java parameter at a position. -/
def ofParameter (p : Parameter) (position : Nat) : Except Failure NativeParameter := do
  let native ← p.type.native
  pure ⟨nameAt p.name position, p.type, native⟩

/-- The parameters of a method. -/
def ofMethod (m : Method) : Except Failure (List NativeParameter) :=
  blame m.declaration (m.parameters.zipIdx.mapM fun (p, i) => ofParameter p i)

/-- Declarations, each after a comma. -/
def declarations (ps : List NativeParameter) (style : Style) : String :=
  Text.concat (ps.map fun p => ", " ++ p.declaration style)

/-- Arguments, each after a comma. -/
def arguments (ps : List NativeParameter) (style : Style) : String :=
  Text.concat (ps.map fun p => ", " ++ p.argument style)

/-- The parameters as Java source declares them, under their C++ names. -/
def javaText (ps : List NativeParameter) : String :=
  Text.joinWith ", " (ps.map fun p => p.type.spelling ++ " " ++ p.name)

end NativeParameter

/-! ### Java declarations, for comments -/

/-- Modifiers, with a space after them if there are any. -/
def Modifiers.leading (m : Modifiers) : String :=
  if m.text.isEmpty then "" else m.text ++ " "

/-- A method or constructor as Java source declares it. -/
def Method.signature (m : Method) (ps : List NativeParameter) (className : String) : String :=
  m.modifiers.leading
    ++ (if m.isConstructor then className else m.result.spelling ++ " " ++ m.name)
    ++ "(" ++ NativeParameter.javaText ps ++ ")"

/-- A field as Java source declares it. -/
def Field.signature (f : Field) : String :=
  f.modifiers.leading ++ f.type.spelling ++ " " ++ f.name

/-- The native type of a method's result. -/
def Method.nativeResult (m : Method) : Except Failure NativeType :=
  blame m.declaration m.result.native

end JniBindings
