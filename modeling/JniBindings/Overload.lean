import JniBindings.Identifier
import JniBindings.JavaType.Descriptor
import JniBindings.Member
import JniBindings.Symbol
/-!
# Overloaded members

Every member of a proxy gets a slot in which its id is kept, and every method a C++ function.
Members with the same name are told apart by counting them in their order, and functions by a suffix
made from the descriptors of the parameters. `resolveMethods` and `resolveFields` do both.
-/

namespace JniBindings

/-- A member, with the number of members of the same name in front of it and the suffix of its
function. -/
structure Resolved (α : Type) where
  member : α
  index : Nat
  suffix : Option String
deriving DecidableEq, Repr

/-- Every function that makes an instance has this name. -/
def factoryName : String := "newInstance"

/-- How often a name occurs. -/
def occurrences (name : String) (names : List String) : Nat :=
  names.count name

/-- Members with the number of members of the same name in front of each; `seen` holds the names in
front of all. -/
def indexed {α : Type} (name : α → String) (seen : List String) : List α → List (α × Nat)
  | [] => []
  | m :: rest => (m, occurrences (name m) seen) :: indexed name (name m :: seen) rest

namespace Method

/-- The parameters that the virtual machine sees: those of a constructor of an inner class begin
with the enclosing instance. -/
def jvmParameters (m : Method) (enclosing : Option JavaType) : List JavaType :=
  if m.isConstructor then enclosing.toList ++ m.parameterTypes else m.parameterTypes

/-- The type that the virtual machine sees. -/
def jvmType (m : Method) (enclosing : Option JavaType) : MethodType :=
  ⟨m.jvmParameters enclosing, m.result⟩

/-- The descriptor of the method. -/
def descriptor (m : Method) (enclosing : Option JavaType) : Except Failure String :=
  blame m.declaration (m.jvmType enclosing).descriptor

/-- The suffix that tells the method from others of its name. -/
def overloadSuffix (m : Method) (enclosing : Option JavaType) : Except Failure String :=
  blame m.declaration do
    let parameters ← JavaType.listDescriptor (m.jvmParameters enclosing)
    pure ("__" ++ Symbol.token parameters)

/-- The method needs a suffix among methods with given names. -/
def needsSuffix (m : Method) (names : List String) : Bool :=
  1 < occurrences m.name names || (!m.isConstructor && isReserved m.name)

end Method

/-- A method with its index and its suffix among methods with given names. -/
def resolveMethod (enclosing : Option JavaType) (names : List String) (m : Method) (index : Nat) :
    Except Failure (Resolved Method) := do
  let suffix ←
    if m.needsSuffix names then some <$> m.overloadSuffix enclosing else pure none
  pure ⟨m, index, suffix⟩

/-- Methods or constructors of a class with their indices and suffixes. -/
def resolveMethods (enclosing : Option JavaType) (methods : List Method) :
    Except Failure (List (Resolved Method)) :=
  (indexed Method.name [] methods).mapM fun (m, index) =>
    resolveMethod enclosing (methods.map Method.name) m index

/-- Fields of a class with their indices. -/
def resolveFields (fields : List Field) : List (Resolved Field) :=
  (indexed Field.name [] fields).map fun (f, index) => ⟨f, index, none⟩

/-- The slot of a method or constructor. -/
def Resolved.methodSlot (r : Resolved Method) : String :=
  if r.member.isConstructor then "sConstruct_" ++ toString r.index
  else "sMethod_" ++ identifier r.member.name ++ "_" ++ toString r.index

/-- The slot of a field. -/
def Resolved.fieldSlot (r : Resolved Field) : String :=
  "sField_" ++ identifier r.member.name ++ "_" ++ toString r.index

/-- The function of a method or constructor. -/
def Resolved.functionName (r : Resolved Method) : String :=
  (if r.member.isConstructor then factoryName else identifier r.member.name) ++ r.suffix.getD ""

end JniBindings
