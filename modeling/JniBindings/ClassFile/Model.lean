import JniBindings.ClassFile.Basic
import JniBindings.ClassModel
import JniBindings.JavaType.Descriptor
/-!
# Class models of class files

A class file has no names of parameters, so they are numbered (`arg0`, `arg1`). What the compiler
adds is left out: synthetic members, bridge methods and class initialisers. The instance that
encloses an inner class is known from the synthetic field `this$0` (`this$1` and so on); each
constructor takes it as its first parameter, which is not one of the declaration.
-/

namespace JniBindings.ClassFile

/-- The flags of members with the modifiers they stand for. -/
abbrev FlagTable := List (Nat × Modifier)

/-- The flags of classes. -/
def classFlagTable : FlagTable :=
  [(0x1, .isPublic), (0x10, .isFinal), (0x400, .isAbstract)]

/-- The flags of fields. -/
def fieldFlagTable : FlagTable :=
  [(0x1, .isPublic), (0x2, .isPrivate), (0x4, .isProtected), (0x8, .isStatic), (0x10, .isFinal),
    (0x40, .isVolatile), (0x80, .isTransient)]

/-- The flags of methods. -/
def methodFlagTable : FlagTable :=
  [(0x1, .isPublic), (0x2, .isPrivate), (0x4, .isProtected), (0x8, .isStatic), (0x10, .isFinal),
    (0x20, .isSynchronized), (0x100, .isNative), (0x400, .isAbstract), (0x800, .isStrict)]

/-- The modifiers that flags stand for. -/
def modifiersOf (table : FlagTable) (flags : Nat) : Modifiers :=
  .ofList ((table.filter fun (flag, _) => flags &&& flag ≠ 0).map Prod.snd)

/-- The flag of members that the compiler added. -/
def syntheticFlag : Nat := 0x1000

/-- The flag of methods that bridge to an overriding method. -/
def bridgeFlag : Nat := 0x40

/-- A dotted name. -/
def dotted (name : String) : String := Text.replaceChar '/' '.' name

/-- The method is declared in the source. -/
def MemberInfo.isDeclaredMethod (m : MemberInfo) : Bool :=
  !m.hasFlag syntheticFlag && !m.hasFlag bridgeFlag && m.name ≠ "<clinit>"

/-- The synthetic field holds the instance that encloses an instance of the class. -/
def MemberInfo.holdsOuter (className : String) (f : MemberInfo) : Bool :=
  f.hasFlag syntheticFlag && "this$".toList.isPrefixOf f.name.toList
    && className.toList.contains '$'

/-- The constant of a field: the first one that can be decoded. -/
def MemberInfo.constant? (f : MemberInfo) : Option ConstantValue :=
  f.attributes.findSome? fun
    | .constantValue value => value
    | _ => none

/-- The exceptions of a method: those of the first attribute that lists some. -/
def MemberInfo.exceptions (m : MemberInfo) : List String :=
  (m.attributes.findSome? fun
    | .exceptions names => some (names.map dotted)
    | _ => none).getD []

/-- A field with its type. -/
structure TypedField where
  info : MemberInfo
  type : JavaType
deriving DecidableEq

/-- The field with the type that its descriptor gives. -/
def MemberInfo.typed (f : MemberInfo) : Except Failure TypedField :=
  (⟨f, ·⟩) <$> JavaType.ofDescriptor f.descriptor

/-- A field of the class model. -/
def TypedField.toField (className : String) (f : TypedField) : Field :=
  { declaringClass := className, name := f.info.name, type := f.type
    modifiers := modifiersOf fieldFlagTable f.info.flags
    constant := f.info.constant? }

/-- Parameters numbered from zero. -/
def numbered (types : List JavaType) : List Parameter :=
  types.zipIdx.map fun (type, i) => ⟨"arg" ++ toString i, type⟩

/-- The declared parameters of a constructor: all but the enclosing instance at their front. -/
def declaredParameters (outer : Option JavaType) (types : List JavaType) : List JavaType :=
  match outer, types with
  | some outer, first :: rest => if first = outer then rest else types
  | _, types => types

/-- A method or constructor of the class model. -/
def MemberInfo.toMethod (className : String) (outer : Option JavaType) (m : MemberInfo) :
    Except Failure Method := do
  let type ← MethodType.ofDescriptor m.descriptor
  let types :=
    if m.name = constructorName then declaredParameters outer type.parameters
    else type.parameters
  pure { declaringClass := className, name := m.name, result := type.result
         parameters := numbered types
         modifiers := modifiersOf methodFlagTable m.flags
         exceptions := m.exceptions }

/-- The type of the enclosing instance: that of the last field that holds one. -/
def outerType (className : String) (fields : List TypedField) : Option JavaType :=
  (fields.filter (·.info.holdsOuter className)).getLast?.map TypedField.type

/-- The class model of a class file. The descriptors of all fields are read, also of those that are
left out. -/
def toModel (file : ClassFile) : Except Failure ClassModel :=
  let name := dotted file.name
  if name.isEmpty then .error (.invalidModel .unnamedClassFile)
  else do
    let fields ← file.fields.mapM MemberInfo.typed
    let enclosingInstance := outerType name fields
    let members ←
      (file.methods.filter (·.isDeclaredMethod)).mapM (·.toMethod name enclosingInstance)
    pure { name
           simpleName := simpleNameOf name
           modifiers := modifiersOf classFlagTable file.flags
           enclosingInstance
           constructors := members.filter Method.isConstructor
           methods := members.filter (!·.isConstructor)
           fields := (fields.filter (!·.info.hasFlag syntheticFlag)).map (·.toField name) }

end JniBindings.ClassFile

namespace JniBindings

/-- The class that a class file describes. -/
def ClassModel.ofClassFile (bytes : List UInt8) : Except Failure ClassModel :=
  match ClassFile.parse? bytes with
  | some file => file.toModel
  | none => .error .badClassFile

end JniBindings
