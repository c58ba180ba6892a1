import JniBindings.ClassFile.Pool
/-!
# Class files

`ClassFile.parse?` reads a compiled class. It keeps what a class model needs: the names, flags and
descriptors of the class and its members, the constants of fields and the exceptions of methods.
All else is only checked to be well formed.
-/

namespace JniBindings.ClassFile

/-! ### Attributes -/

/-- What an attribute says. -/
inductive Attribute
  | constantValue (value : Option ConstantValue)
  | exceptions (names : List String)
  | bootstrapMethods (count : Nat)
  | other
deriving DecidableEq

/-- The texts that a reference in an attribute leads to. -/
def textRef (pool : Pool) : Reader String := do
  let i ← u2
  present (pool.text? i)

/-- A bootstrap method: a method handle, and constants as its arguments. -/
def bootstrapMethod (pool : Pool) : Reader Unit := do
  let handle ← u2
  let arguments ← counted u2
  check ((pool.at? handle).any fun | .methodHandle .. => true | _ => false)
  check (arguments.all fun i => (pool.at? i).isSome)

/-- A handler of exceptions: four positions, of which the last is zero or that of a class. -/
def handler (pool : Pool) : Reader Unit := do
  let _ ← bytes 6
  let caught ← u2
  check (caught = 0 || (pool.classEntry? caught).isSome)

/-- Code with its exception handlers; `nested` reads its attributes. -/
def code (pool : Pool) (nested : Reader Attribute) : Reader Unit := do
  let _ ← bytes 4
  let size ← u4
  let _ ← bytes size
  let _ ← counted (handler pool)
  let _ ← counted nested

/-- What the content of an attribute says, which has to be well formed as a whole; `nested` reads
the attributes of code. -/
def content? (pool : Pool) (nested : Reader Attribute) (name : String) (content : List UInt8) :
    Option Attribute :=
  match name with
  | "ConstantValue" => do
    let i ← u2.whole? content
    .constantValue <$> pool.value? i
  | "Exceptions" => do
    let classes ← (counted u2).whole? content
    .exceptions <$> classes.mapM pool.classEntry?
  | "BootstrapMethods" => do
    let methods ← (counted (bootstrapMethod pool)).whole? content
    pure (.bootstrapMethods methods.length)
  | "Code" => (code pool nested).whole? content *> pure .other
  | "LineNumberTable" => (counted u4).whole? content *> pure .other
  | "Signature" => (textRef pool).whole? content *> pure .other
  | "SourceFile" => (textRef pool).whole? content *> pure .other
  | "Synthetic" => if content.isEmpty then some .other else none
  | "Deprecated" => if content.isEmpty then some .other else none
  | _ => some .other

/-- An attribute, in which code is nested less than a number of levels deep. -/
def readAttribute (pool : Pool) : Nat → Reader Attribute
  | 0 => fun _ => none
  | levels + 1 => do
    let name ← textRef pool
    let length ← u4
    let content ← bytes length
    present (content? pool (readAttribute pool levels) name content)

/-- The attributes of a class or member. Each level of nesting takes more than one byte. -/
def readAttributes (pool : Pool) : Reader (List Attribute) := fun s =>
  counted (readAttribute pool s.length) s

/-! ### Members -/

/-- A field or method. -/
structure MemberInfo where
  flags : Nat
  name : String
  descriptor : String
  attributes : List Attribute
deriving DecidableEq

/-- The flag is set. -/
def MemberInfo.hasFlag (m : MemberInfo) (flag : Nat) : Bool := m.flags &&& flag ≠ 0

/-- A field. -/
def fieldInfo (pool : Pool) : Reader MemberInfo := do
  let flags ← u2
  let name ← textRef pool
  check (isUnqualified name.toList)
  let text ← textRef pool
  let descriptor ← present (fieldDescriptor? text)
  let attributes ← readAttributes pool
  pure { flags, name, descriptor, attributes }

/-- The name and the descriptor of a method fit together, in a class file of a given version.
Constructors and initialisers return nothing, interfaces have no constructors, and initialisers
take no parameters since version 51. -/
def isMethodShape (major : Nat) (isInterface : Bool) (name descriptor : String) : Bool :=
  isMethodName name
    && (name ≠ "<init>" || (!isInterface && endsInVoid))
    && (name ≠ "<clinit>" || (endsInVoid && (major < 51 || descriptor = "()V")))
where
  /-- The method returns nothing. -/
  endsInVoid : Bool := descriptor.toList.reverse.take 2 = ['V', ')']

/-- A method. -/
def methodInfo (pool : Pool) (major : Nat) (isInterface : Bool) : Reader MemberInfo := do
  let flags ← u2
  let name ← textRef pool
  let text ← textRef pool
  let descriptor ← present (methodDescriptor? text)
  check (isMethodShape major isInterface name descriptor)
  let attributes ← readAttributes pool
  pure { flags, name, descriptor, attributes }

/-- No two members have the same name and descriptor. -/
def areDistinct : List MemberInfo → Bool
  | [] => true
  | m :: rest =>
    rest.all (fun n => (m.name, m.descriptor) ≠ (n.name, n.descriptor)) && areDistinct rest

end JniBindings.ClassFile

namespace JniBindings

/-! ### Classes -/

/-- A class file. `name` is the internal name, with `/` between packages. -/
structure ClassFile where
  flags : Nat
  name : String
  fields : List ClassFile.MemberInfo
  methods : List ClassFile.MemberInfo
deriving DecidableEq

namespace ClassFile

/-- The flags that classes can have. -/
def classFlags : Nat := 0xf631

/-- The flag of interfaces. -/
def interfaceFlag : Nat := 0x200

/-- The flag of modules. -/
def moduleFlag : Nat := 0x8000

/-- A super class, if there is one. -/
def superClass (pool : Pool) : Reader (Option String) := do
  let i ← u2
  if i = 0 then pure none else some <$> present (pool.className? i)

/-- A class by reference. -/
def classRef (pool : Pool) : Reader String := do
  let i ← u2
  present (pool.className? i)

/-- A class file. A module has no super class, interfaces or members. -/
def read : Reader ClassFile := do
  let magic ← u4
  check (magic = 0xcafebabe)
  let _ ← u2
  let major ← u2
  let pool ← readPool major
  let flags := (← u2) &&& classFlags
  let name ← classRef pool
  let super ← superClass pool
  let interfaces ← counted (classRef pool)
  let fields ← counted (fieldInfo pool)
  let methods ← counted (methodInfo pool major (flags &&& interfaceFlag ≠ 0))
  let attributes ← readAttributes pool
  check (areDistinct fields && areDistinct methods)
  let bootstraps := attributes.findSome? fun
    | .bootstrapMethods count => some count
    | _ => none
  check (pool.all fun constant =>
    (Pool.bootstrap? constant).all fun i => i < bootstraps.getD 0)
  check (flags &&& moduleFlag = 0
    || (53 ≤ major && flags = moduleFlag && super.isNone && interfaces.isEmpty && fields.isEmpty
      && methods.isEmpty))
  pure { flags, name, fields, methods }

/-- The class file that bytes make up. -/
def parse? (s : List UInt8) : Option ClassFile :=
  read.whole? s

end ClassFile

end JniBindings
