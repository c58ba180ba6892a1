/-!
# Java types

A `JavaType` is a primitive type, an array, a class or interface named by its dotted binary name,
or the type of the `null` literal, which can occur in a class model but has no representation in
the virtual machine.
-/

namespace JniBindings

/-- The primitive types, `void` included. -/
inductive Primitive
  | boolean
  | byte
  | char
  | short
  | int
  | long
  | float
  | double
  | void
deriving DecidableEq, Repr

namespace Primitive

/-- The Java keyword. -/
def keyword : Primitive → String
  | boolean => "boolean"
  | byte => "byte"
  | char => "char"
  | short => "short"
  | int => "int"
  | long => "long"
  | float => "float"
  | double => "double"
  | void => "void"

/-- All primitive types. -/
def all : List Primitive := [boolean, byte, char, short, int, long, float, double, void]

theorem mem_all (p : Primitive) : p ∈ all := by
  cases p <;> decide

/-- The primitive type with a given keyword. -/
def ofKeyword? (word : String) : Option Primitive :=
  all.find? (·.keyword = word)

theorem ofKeyword?_keyword (p : Primitive) : ofKeyword? p.keyword = some p := by
  cases p <;> decide

end Primitive

/-- A type of a member, parameter or return value. -/
inductive JavaType
  | primitive (p : Primitive)
  | array (component : JavaType)
  | declared (name : String)
  | null
deriving DecidableEq, Repr

namespace JavaType

/-- The return type of a method that returns nothing. -/
def void : JavaType := primitive .void

/-- The class of Java strings. -/
def string : JavaType := declared "java.lang.String"

/-- The type is `void`. -/
def isVoid (t : JavaType) : Bool := t = void

/-- The type is primitive, `void` included. -/
def isPrimitive : JavaType → Bool
  | primitive _ => true
  | _ => false

/-- The type is an array. -/
def isArray : JavaType → Bool
  | array _ => true
  | _ => false

/-- The number of array levels. -/
def dimensions : JavaType → Nat
  | array component => component.dimensions + 1
  | _ => 0

/-- The type under all array levels. -/
def element : JavaType → JavaType
  | array component => component.element
  | t => t

/-- A type under a number of array levels. -/
def arrayOf (t : JavaType) : Nat → JavaType
  | 0 => t
  | n + 1 => array (t.arrayOf n)

theorem arrayOf_element_dimensions (t : JavaType) : t.element.arrayOf t.dimensions = t := by
  induction t with
  | array component ih => simp [element, dimensions, arrayOf, ih]
  | _ => rfl

/-- The type as Java source spells it. -/
def spelling : JavaType → String
  | primitive p => p.keyword
  | array component => component.spelling ++ "[]"
  | declared name => name
  | null => "null"

end JavaType

end JniBindings
