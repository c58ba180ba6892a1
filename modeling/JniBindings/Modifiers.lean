import JniBindings.Text.Segments
/-!
# Modifiers

A set of Java modifiers. `Modifiers.text` lists them in one fixed order, whatever the order they
were written in.
-/

namespace JniBindings

/-- The modifiers of classes and members, in the order in which they are printed. -/
inductive Modifier
  | isPublic
  | isPrivate
  | isDefault
  | isStrict
  | isProtected
  | isStatic
  | isFinal
  | isVolatile
  | isTransient
  | isNative
  | isAbstract
  | isSynchronized
deriving DecidableEq, Repr

namespace Modifier

/-- All modifiers. -/
def all : List Modifier :=
  [isPublic, isPrivate, isDefault, isStrict, isProtected, isStatic, isFinal, isVolatile,
    isTransient, isNative, isAbstract, isSynchronized]

theorem mem_all (m : Modifier) : m ∈ all := by
  cases m <;> decide

/-- The Java keyword. -/
def keyword : Modifier → String
  | isPublic => "public"
  | isPrivate => "private"
  | isDefault => "default"
  | isStrict => "strictfp"
  | isProtected => "protected"
  | isStatic => "static"
  | isFinal => "final"
  | isVolatile => "volatile"
  | isTransient => "transient"
  | isNative => "native"
  | isAbstract => "abstract"
  | isSynchronized => "synchronized"

/-- The modifier with a given keyword; `strict` is short for `strictfp`. -/
def ofKeyword? (word : String) : Option Modifier :=
  if word = "strict" then some isStrict else all.find? (·.keyword = word)

theorem ofKeyword?_keyword (m : Modifier) : ofKeyword? m.keyword = some m := by
  cases m <;> decide

/-- The position among all modifiers. -/
def index : Modifier → Nat
  | isPublic => 0
  | isPrivate => 1
  | isDefault => 2
  | isStrict => 3
  | isProtected => 4
  | isStatic => 5
  | isFinal => 6
  | isVolatile => 7
  | isTransient => 8
  | isNative => 9
  | isAbstract => 10
  | isSynchronized => 11

end Modifier

/-- A set of modifiers, with one bit for each. -/
structure Modifiers where
  bits : BitVec 12
deriving DecidableEq, Repr

namespace Modifiers

/-- No modifier. -/
def empty : Modifiers := ⟨0⟩

/-- The modifier is in the set. -/
def contains (s : Modifiers) (m : Modifier) : Bool :=
  s.bits.getLsbD m.index

/-- A set with one more modifier. -/
def insert (s : Modifiers) (m : Modifier) : Modifiers :=
  ⟨s.bits ||| BitVec.twoPow 12 m.index⟩

/-- The set of the modifiers in a list. -/
def ofList (ms : List Modifier) : Modifiers :=
  ms.foldl insert empty

/-- The set whose bits are the twelve lowest of a number. -/
def ofNat (n : Nat) : Modifiers := ⟨BitVec.ofNat 12 n⟩

/-- The modifiers in the set, in their order. -/
def toList (s : Modifiers) : List Modifier :=
  Modifier.all.filter s.contains

theorem mem_toList {s : Modifiers} {m : Modifier} : m ∈ s.toList ↔ s.contains m = true := by
  simp [toList, Modifier.mem_all]

/-- The keywords, separated by spaces. -/
def text (s : Modifiers) : String :=
  Text.joinWith " " (s.toList.map Modifier.keyword)

end Modifiers

end JniBindings
