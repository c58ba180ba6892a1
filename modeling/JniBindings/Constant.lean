import JniBindings.Cpp.Literal
import JniBindings.Identifier
import JniBindings.JavaType.Native
import JniBindings.Member
import JniBindings.Warning
/-!
# Constants

A `static final` field of a primitive type or of strings becomes a `static constexpr` member.
`constantsOf` names these members and writes their values; where the class model has no value that
fits the type, a zero stands in for it.
-/

namespace JniBindings

/-- A `static constexpr` member. `remark` says that its literal is no more than a stand-in. -/
structure Constant where
  name : String
  type : String
  literal : String
  remark : Option String
deriving DecidableEq, Repr

/-- The declaration of a constant. -/
def Constant.declaration (c : Constant) : String :=
  "static constexpr " ++ c.type ++ " " ++ c.name ++ " = " ++ c.literal ++ ";"
    ++ match c.remark with
      | some remark => " /* " ++ remark ++ " */"
      | none => ""

/-- Constants, each on a line with an indent, and an empty line after the last. -/
def constantLines (indent : String) (constants : List Constant) : String :=
  if constants.isEmpty then ""
  else Text.concat (constants.map fun c => indent ++ c.declaration ++ "\n") ++ "\n"

/-- The constant that holds the name of a class, and an empty line after it. -/
def fullClassName (slashed : String) : String :=
  "static constexpr auto FULL_CLASS_NAME = u8" ++ Cpp.quoted slashed ++ ";\n\n"

namespace ConstantValue

/-- The integer that a value stands for; truth values count as zero and one. -/
def integer? : ConstantValue → Option Int
  | boolean b => some (if b then 1 else 0)
  | int n => some n.toInt
  | long n => some n.toInt
  | _ => none

/-- The finite double that a value stands for. -/
def finite? (v : ConstantValue) : Option Float :=
  let x? := match v with
    | double x => some x
    | v => v.integer?.map Float.ofInt
  x?.filter Decimal.isFinite

/-- The character that a value stands for: an integer gives its code point, and a text has to
consist of one character. -/
def char? (v : ConstantValue) : Option Char :=
  match v with
  | string s => match s.toList with
    | [c] => some c
    | _ => none
  | v => do
    let n ← v.integer?
    if 0 ≤ n ∧ n.toNat.isValidChar then some (Char.ofNat n.toNat) else none

/-- The integer that a value stands for, if it lies between two bounds. -/
def between? (low high : Int) (v : ConstantValue) : Option Int :=
  v.integer?.filter fun n => low ≤ n && n ≤ high

/-- The literal of a value in a field of a primitive type. -/
def literal? (v : ConstantValue) : Primitive → Option String
  | .boolean => v.integer?.map fun n => if n = 0 then "JNI_FALSE" else "JNI_TRUE"
  | .char => v.char?.map Cpp.charLiteral
  | .byte => (v.between? (-128) 127).map toString
  | .short => (v.between? (-32768) 32767).map toString
  | .int => (v.between? (-2147483648) 2147483647).map Cpp.intLiteral
  | .long => v.integer?.map Cpp.longLiteral
  | .float => v.finite?.map Cpp.floatLiteral
  | .double => v.finite?.map Cpp.doubleLiteral
  | .void => none

/-- The literal of a value in a field of strings. -/
def stringLiteral? : ConstantValue → Option String
  | string s => some ("u8" ++ Cpp.quoted (Cpp.stringBody s))
  | _ => none

end ConstantValue

namespace Field

/-- The literal of the field's value, if it has one that fits its type. -/
def literal? (f : Field) : Option String := do
  let v ← f.constant
  match f.type with
  | .primitive p => v.literal? p
  | type => if type = .string then v.stringLiteral? else none

/-- What stands in for a value. -/
def standIn (f : Field) : String :=
  match f.type with
  | .primitive .boolean => "JNI_FALSE"
  | .primitive _ => "0"
  | _ => "u8" ++ Cpp.quoted ""

/-- The type of the constant. A type that native code has no type for is taken for an object. -/
def constantType (f : Field) : String :=
  if f.type = .string then "auto"
  else match f.type.native with
    | .ok native => native.name
    | .error _ => NativeType.object.name

/-- The field as a constant of a given name. -/
def toConstant (f : Field) (name : String) : Constant :=
  match f.literal? with
  | some literal => ⟨name, f.constantType, literal, none⟩
  | none =>
    ⟨name, f.constantType, f.standIn, some ("Unknown constant value for '" ++ f.name ++ "'")⟩

/-- The warning about a constant without a value. -/
def constantWarning? (f : Field) : Option Warning :=
  match f.literal? with
  | some _ => none
  | none => some (.noConstantValue f.declaringClass f.name)

end Field

/-- The name is reserved or taken. -/
def isBlocked (taken : List String) (name : String) : Bool :=
  isReserved name || taken.contains name

/-- The names that can block a name of at least a given length. -/
def blockers (taken : List String) (length : Nat) : List String :=
  (keywords ++ proxyNames ++ taken).filter fun w => length ≤ w.length

/-- A blocked name with one more underscore has fewer blockers. -/
theorem length_blockers_lt {taken : List String} {name : String}
    (h : isBlocked taken name = true) :
    (blockers taken (name ++ "_").length).length < (blockers taken name.length).length := by
  have hmem : name ∈ keywords ++ proxyNames ++ taken := by
    simpa [isBlocked, isReserved, or_assoc] using h
  have hlen : (name ++ "_").length = name.length + 1 := by
    rw [String.length_append]; rfl
  have hsub : (blockers taken (name ++ "_").length)
      = (blockers taken name.length).filter fun w => name.length + 1 ≤ w.length := by
    simp only [blockers, hlen, List.filter_filter]
    congr 1
    funext w
    by_cases hw : name.length + 1 ≤ w.length
    · have : name.length ≤ w.length := Nat.le_of_succ_le hw
      simp [hw, this]
    · simp [hw]
  rw [hsub]
  refine List.length_filter_lt_length_iff_exists.2 ⟨name, ?_, ?_⟩
  · simp only [blockers, List.mem_filter]
    exact ⟨hmem, by simp⟩
  · simp

/-- A name followed by as few underscores as make it free. -/
def freeName (taken : List String) (name : String) : String :=
  if _h : isBlocked taken name then freeName taken (name ++ "_") else name
termination_by (blockers taken name.length).length
decreasing_by exact length_blockers_lt _h

/-- Constant fields as constants, in their order. Each gets a name that is neither reserved nor
taken, nor that of an earlier one. -/
def nameConstants (taken : List String) : List Field → List Constant
  | [] => []
  | f :: rest =>
    let name := freeName taken (identifier f.name)
    f.toConstant name :: nameConstants (name :: taken) rest

/-- The constants among the fields of a class; `taken` holds the other names around them. -/
def constantsOf (fields : List Field) (taken : List String) : List Constant :=
  nameConstants taken (fields.filter Field.isConstant)

/-- The warnings about the constants among the fields of a class. -/
def constantWarnings (fields : List Field) : List Warning :=
  (fields.filter Field.isConstant).filterMap Field.constantWarning?

end JniBindings
