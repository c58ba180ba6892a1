import JniBindings.Failure
/-!
# Native types

`JavaType.native` gives the C++ type that stands for a Java type in native code. The interface
functions come in one variant for each primitive type and one for all references
(`JavaType.selector`); the latter return a bare object handle, which `needsCast` handles have to be
cast from.
-/

namespace JniBindings

/-- The C++ types of native code. -/
inductive NativeType
  | scalar (p : Primitive)
  | scalarArray (p : Primitive)
  | objectArray
  | string
  | classObject
  | throwable
  | object
deriving DecidableEq, Repr

/-- The C++ name. -/
def NativeType.name : NativeType → String
  | scalar .void => "void"
  | scalar p => "j" ++ p.keyword
  | scalarArray p => "j" ++ p.keyword ++ "Array"
  | objectArray => "jobjectArray"
  | string => "jstring"
  | classObject => "jclass"
  | throwable => "jthrowable"
  | object => "jobject"

/-- The part of a binary class name after the last `.` or `$`. -/
def simpleNameOf (name : String) : String :=
  String.ofList (name.toList.reverse.takeWhile fun c => c ≠ '.' && c ≠ '$').reverse

/-- The text ends in a given way. -/
def endsWith (ending s : String) : Bool :=
  ending.toList.reverse.isPrefixOf s.toList.reverse

/-- Throwables whose simple names do not end the way throwables' names end. -/
def knownThrowables : List String :=
  ["java.lang.Throwable", "java.lang.Exception", "java.lang.Error", "java.lang.RuntimeException",
    "java.lang.ThreadDeath"]

/-- The class is taken for a throwable, going by its name alone. -/
def isThrowable (name : String) : Bool :=
  knownThrowables.contains name
    || endsWith "Exception" (simpleNameOf name) || endsWith "Error" (simpleNameOf name)

/-- A handle that the interface functions return as a bare object and that has to be cast. -/
def needsCast (nativeName : String) : Bool :=
  ["jclass", "jstring", "jthrowable", "jweak"].contains nativeName || endsWith "Array" nativeName

namespace JavaType

/-- The native type of a class. -/
def classNative (name : String) : NativeType :=
  if name = "java.lang.String" then .string
  else if name = "java.lang.Class" then .classObject
  else if isThrowable name then .throwable
  else .object

/-- The native type. Arrays of `void`, arrays of the type of `null` and that type itself have
none. -/
def native (t : JavaType) : Except Failure NativeType :=
  match t with
  | primitive p => .ok (.scalar p)
  | array (primitive .void) => .error (.unsupportedType "" t)
  | array (primitive p) => .ok (.scalarArray p)
  | array null => .error (.unsupportedType "" t)
  | array _ => .ok .objectArray
  | declared name => .ok (classNative name)
  | null => .error (.unsupportedType "" t)

/-- The `<Type>` of `Call<Type>Method` and `Get<Type>Field`. -/
def selector : JavaType → String
  | primitive .boolean => "Boolean"
  | primitive .byte => "Byte"
  | primitive .char => "Char"
  | primitive .short => "Short"
  | primitive .int => "Int"
  | primitive .long => "Long"
  | primitive .float => "Float"
  | primitive .double => "Double"
  | primitive .void => "Void"
  | _ => "Object"

/-- What a stub returns before it is written. -/
def zero : JavaType → String
  | primitive .boolean => "JNI_FALSE"
  | primitive _ => "0"
  | _ => "nullptr"

end JavaType

end JniBindings
