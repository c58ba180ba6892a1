import JniBindings.JavaType.Basic
import JniBindings.Modifiers
import JniBindings.Text.Segments
/-!
# Members of a class

Methods, constructors and fields, with the annotations that steer the generation. A constructor is
a method named `<init>`.
-/

namespace JniBindings

/-- What an annotation asks for. -/
inductive Annotation
  | fieldAccessors (getter setter : Bool)
  | methodProxy (enabled : Bool)
  | other
deriving DecidableEq, Repr

/-- A compile-time constant as the class model gives it. The type of its field decides how it is
written. -/
inductive ConstantValue
  | boolean (value : Bool)
  | int (value : Int32)
  | long (value : Int64)
  | double (value : Float)
  | string (value : String)
deriving DecidableEq

/-- A parameter of a method or constructor. -/
structure Parameter where
  name : String
  type : JavaType
deriving DecidableEq, Repr

/-- A method or constructor. `exceptions` and `declaringClass` hold dotted binary names. -/
structure Method where
  declaringClass : String
  name : String
  result : JavaType
  parameters : List Parameter
  modifiers : Modifiers
  exceptions : List String := []
  annotations : List Annotation := []
deriving DecidableEq, Repr

/-- A field, with its compile-time constant if it has one. -/
structure Field where
  declaringClass : String
  name : String
  type : JavaType
  modifiers : Modifiers
  annotations : List Annotation := []
  constant : Option ConstantValue := none
deriving DecidableEq

/-- The name of every constructor. -/
def constructorName : String := "<init>"

/-- `Class.name(type, type)`, for diagnostics. -/
def declarationText (declaringClass name : String) (parameters : List JavaType) : String :=
  declaringClass ++ "." ++ name
    ++ "(" ++ Text.joinWith ", " (parameters.map JavaType.spelling) ++ ")"

namespace Method

/-- A constructor. -/
def constructor (declaringClass : String) (parameters : List Parameter) (modifiers : Modifiers) :
    Method :=
  { declaringClass, name := constructorName, result := .void, parameters, modifiers }

/-- The method is a constructor. -/
def isConstructor (m : Method) : Bool := m.name = constructorName

/-- The method is declared `static`. -/
def isStatic (m : Method) : Bool := m.modifiers.contains .isStatic

/-- The method is declared `native`. -/
def isNative (m : Method) : Bool := m.modifiers.contains .isNative

/-- The types of the parameters. -/
def parameterTypes (m : Method) : List JavaType := m.parameters.map Parameter.type

/-- Whether the method's annotations put it into the proxy or keep it out; the first one counts. -/
def proxyRequest? (m : Method) : Option Bool :=
  m.annotations.findSome? fun
    | .methodProxy enabled => some enabled
    | _ => none

/-- The declaration, for diagnostics. -/
def declaration (m : Method) : String :=
  declarationText m.declaringClass m.name m.parameterTypes

end Method

namespace Field

/-- The field is declared `static`. -/
def isStatic (f : Field) : Bool := f.modifiers.contains .isStatic

/-- The field is declared `final`. -/
def isFinal (f : Field) : Bool := f.modifiers.contains .isFinal

/-- The field is a compile-time constant: `static final`, and a primitive or a string. -/
def isConstant (f : Field) : Bool :=
  (f.type.isPrimitive || f.type = .string) && f.isStatic && f.isFinal

/-- Whether the field's annotations ask for a getter and for a setter; the first one counts. -/
def accessorRequest? (f : Field) : Option (Bool × Bool) :=
  f.annotations.findSome? fun
    | .fieldAccessors getter setter => some (getter, setter)
    | _ => none

/-- The declaration, for diagnostics. -/
def declaration (f : Field) : String :=
  declarationText f.declaringClass f.name []

end Field

end JniBindings
