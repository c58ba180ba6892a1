import JniBindings.ClassFile.Bytes
import JniBindings.ClassFile.Name
import JniBindings.ClassFile.Utf8
import JniBindings.Member
/-!
# The constant pool

Everything else in a class file refers to texts, classes and values by their positions in the
constant pool. A pool is usable only if every reference in it leads to a constant of the right kind.
-/

namespace JniBindings.ClassFile

/-- A constant. References to other constants are their positions in the pool, and a text that
cannot be decoded is `none`. -/
inductive Constant
  | unusable
  | text (decoded : Option String)
  | integer (n : Nat)
  | float (bits : Nat)
  | long (n : Nat)
  | double (bits : Nat)
  | classEntry (name : Nat)
  | string (text : Nat)
  | fieldRef (owner nameAndType : Nat)
  | methodRef (owner nameAndType : Nat)
  | interfaceMethodRef (owner nameAndType : Nat)
  | nameAndType (name descriptor : Nat)
  | methodHandle (kind reference : Nat)
  | methodType (descriptor : Nat)
  | dynamic (bootstrap nameAndType : Nat)
  | invokeDynamic (bootstrap nameAndType : Nat)
  | moduleName (name : Nat)
  | packageName (name : Nat)
deriving DecidableEq, Repr

/-- The constant takes two positions, of which the second is unusable. -/
def Constant.isWide : Constant → Bool
  | long _ => true
  | double _ => true
  | _ => false

/-- Reads a constant of a given tag, in a file of a given version. -/
def readConstant (major tag : Nat) : Reader Constant :=
  match tag with
  | 1 => do
    let length ← u2
    let content ← bytes length
    pure (.text (decodeText content))
  | 3 => .integer <$> u4
  | 4 => .float <$> u4
  | 5 => .long <$> u8
  | 6 => .double <$> u8
  | 7 => .classEntry <$> u2
  | 8 => .string <$> u2
  | 9 => .fieldRef <$> u2 <*> u2
  | 10 => .methodRef <$> u2 <*> u2
  | 11 => .interfaceMethodRef <$> u2 <*> u2
  | 12 => .nameAndType <$> u2 <*> u2
  | 15 => check (51 ≤ major) *> (.methodHandle <$> u1 <*> u2)
  | 16 => check (51 ≤ major) *> (.methodType <$> u2)
  | 17 => check (55 ≤ major) *> (.dynamic <$> u2 <*> u2)
  | 18 => check (51 ≤ major) *> (.invokeDynamic <$> u2 <*> u2)
  | 19 => check (53 ≤ major) *> (.moduleName <$> u2)
  | 20 => check (53 ≤ major) *> (.packageName <$> u2)
  | _ => fun _ => none

/-- Reads constants until a number of positions is taken. -/
def readConstants (major : Nat) : Nat → Reader (List Constant)
  | 0 => pure []
  | n + 1 => do
    let constant ← u1 >>= readConstant major
    if constant.isWide then
      let rest ← readConstants major (n - 1)
      pure (constant :: .unusable :: rest)
    else
      let rest ← readConstants major n
      pure (constant :: rest)
termination_by n => n

/-- The constants by position; there is none at position zero. -/
abbrev Pool := Array Constant

namespace Pool

/-- The constant at a position. -/
def at? (pool : Pool) (i : Nat) : Option Constant := pool[i]?

/-- There is a text at a position, whether or not it can be decoded. -/
def isText (pool : Pool) (i : Nat) : Bool :=
  match pool.at? i with
  | some (.text _) => true
  | _ => false

/-- The text at a position. -/
def text? (pool : Pool) (i : Nat) : Option String :=
  match pool.at? i with
  | some (.text decoded) => decoded
  | _ => none

/-- The name or array descriptor of the class at a position. -/
def classEntry? (pool : Pool) (i : Nat) : Option String :=
  match pool.at? i with
  | some (.classEntry name) => pool.text? name
  | _ => none

/-- The name of the class at a position. -/
def className? (pool : Pool) (i : Nat) : Option String :=
  (pool.classEntry? i).filter fun name => isClassName name.toList

/-- The descriptor in the pair of a name and a descriptor at a position. -/
def descriptorOf? (pool : Pool) (i : Nat) : Option String :=
  match pool.at? i with
  | some (.nameAndType _ descriptor) => pool.text? descriptor
  | _ => none

/-- The constant at a position can be the value of a field. A text that cannot be decoded gives no
value. -/
def value? (pool : Pool) (i : Nat) : Option (Option ConstantValue) :=
  match pool.at? i with
  | some (.integer n) => some (some (.int (Int32.ofNat n)))
  | some (.float bits) => some (some (.double (Float32.ofBits (UInt32.ofNat bits)).toFloat))
  | some (.long n) => some (some (.long (Int64.ofNat n)))
  | some (.double bits) => some (some (.double (Float.ofBits (UInt64.ofNat bits))))
  | some (.string text) => some ((pool.text? text).map .string)
  | _ => none

/-- A method handle of a given kind may refer to the constant: kinds 1 to 4 to fields, kind 9 to
methods of interfaces, and from version 52 on kinds 6 and 7 to methods of both sorts. -/
def isHandleTarget (major kind : Nat) : Constant → Bool
  | .fieldRef .. => 1 ≤ kind && kind ≤ 4
  | .methodRef .. => 5 ≤ kind && kind ≤ 8
  | .interfaceMethodRef .. => kind = 9 || ((kind = 6 || kind = 7) && 52 ≤ major)
  | _ => false

/-- A module name escapes `:`, `@` and the backslash, and holds no control characters. -/
def isModuleName : List Char → Bool
  | [] => true
  | '\\' :: c :: rest => (c = '\\' || c = ':' || c = '@') && isModuleName rest
  | c :: rest => 0x20 ≤ c.toNat && c ≠ '\\' && c ≠ ':' && c ≠ '@' && isModuleName rest

/-- The references of a constant lead to constants of the right kind. -/
def isSound (pool : Pool) (major : Nat) : Constant → Bool
  | .classEntry name => (pool.text? name).any isClassEntry
  | .string text => pool.isText text
  | .fieldRef owner pair =>
    (pool.classEntry? owner).isSome && (pool.descriptorOf? pair).any isFieldDescriptor
  | .methodRef owner pair =>
    (pool.classEntry? owner).isSome && (pool.descriptorOf? pair).any isMethodDescriptor
  | .interfaceMethodRef owner pair =>
    (pool.classEntry? owner).isSome && (pool.descriptorOf? pair).any isMethodDescriptor
  | .nameAndType name descriptor =>
    (pool.text? name).any (fun name => isUnqualified name.toList) && pool.isText descriptor
  | .methodHandle kind reference => (pool.at? reference).any (isHandleTarget major kind)
  | .methodType descriptor => (pool.text? descriptor).any isMethodDescriptor
  | .dynamic _ pair => (pool.descriptorOf? pair).any isFieldDescriptor
  | .invokeDynamic _ pair => (pool.descriptorOf? pair).any isMethodDescriptor
  | .moduleName name => (pool.text? name).any fun name => isModuleName name.toList
  | .packageName name => (pool.text? name).any fun name => isBinaryName name.toList
  | _ => true

/-- The bootstrap method that a constant needs, by its position among them. -/
def bootstrap? : Constant → Option Nat
  | .dynamic bootstrap _ => some bootstrap
  | .invokeDynamic bootstrap _ => some bootstrap
  | _ => none

end Pool

/-- Reads the constant pool. -/
def readPool (major : Nat) : Reader Pool := do
  let count ← u2
  let constants ← readConstants major (count - 1)
  let pool : Pool := (.unusable :: constants).toArray
  check (constants.all (pool.isSound major))
  pure pool

end JniBindings.ClassFile
