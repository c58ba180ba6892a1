import JniBindings.JavaType.Native
import JniBindings.Member
/-!
# Class models

A `ClassModel` describes one Java class: its name, its modifiers and its members in the order of
their declaration. It can be read from a symbol table or from a class file, or be built member by
member, starting from an empty public class.
-/

namespace JniBindings

/-- A Java class. Names are dotted binary names, with `$` in front of the name of a nested class;
an inner class has the type of the instance that encloses it. -/
structure ClassModel where
  name : String
  simpleName : String
  modifiers : Modifiers
  enclosingInstance : Option JavaType
  constructors : List Method
  methods : List Method
  fields : List Field
deriving DecidableEq

namespace ClassModel

/-- A public class without members. -/
def ofName (name : String) : ClassModel :=
  { name
    simpleName := simpleNameOf name
    modifiers := .ofList [.isPublic]
    enclosingInstance := none
    constructors := []
    methods := []
    fields := [] }

/-- The class with other modifiers. -/
def withModifiers (c : ClassModel) (modifiers : Modifiers) : ClassModel :=
  { c with modifiers }

/-- The class as an inner class. -/
def withEnclosingInstance (c : ClassModel) (outer : JavaType) : ClassModel :=
  { c with enclosingInstance := some outer }

/-- The class with one more constructor. -/
def withConstructor (c : ClassModel) (parameters : List Parameter) (modifiers : Modifiers) :
    ClassModel :=
  { c with constructors := c.constructors ++ [.constructor c.name parameters modifiers] }

/-- The class with one more method. -/
def withMethod (c : ClassModel) (name : String) (result : JavaType) (parameters : List Parameter)
    (modifiers : Modifiers) : ClassModel :=
  { c with methods :=
      c.methods ++ [{ declaringClass := c.name, name, result, parameters, modifiers }] }

/-- The class with a method or constructor that was declared elsewhere. -/
def withDeclaration (c : ClassModel) (m : Method) : ClassModel :=
  let m := { m with declaringClass := c.name }
  if m.isConstructor then { c with constructors := c.constructors ++ [m] }
  else { c with methods := c.methods ++ [m] }

/-- The class with one more field. -/
def withField (c : ClassModel) (f : Field) : ClassModel :=
  { c with fields := c.fields ++ [{ f with declaringClass := c.name }] }

/-- The compile-time constants among the fields. -/
def constants (c : ClassModel) : List Field :=
  c.fields.filter Field.isConstant

end ClassModel

end JniBindings
