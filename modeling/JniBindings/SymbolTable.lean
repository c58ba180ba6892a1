import JniBindings.ClassModel
import JniBindings.JavaType.Spelling
import JniBindings.Json.Reader
/-!
# Symbol tables

A symbol table lists classes as JSON, with types as Java source spells them and modifiers as
keywords. It is read in two steps. `ClassEntry.ofJson?` takes the JSON apart: keys it does not know
are passed over, a record may also be written as the array of its values, and whatever does not fit
makes the whole text unusable. `ClassEntry.toModel` then reads type names and modifiers, and says
which of them is wrong.

`ClassModel.ofJson` reads one class, and `ClassModel.listOfJson` one class or an array of them.
-/

namespace JniBindings

/-! ### Records -/

namespace Json

/-- The members of an object with a given key. -/
def membersNamed (key : String) (members : List (List Piece × Json)) : List Json :=
  members.filterMap fun (k, v) => if decode? k = some key then some v else none

/-- The value of a member that may be absent, but not repeated. -/
def member? (key : String) (members : List (List Piece × Json)) : Option (Option Json) :=
  match membersNamed key members with
  | [] => some none
  | [v] => some (some v)
  | _ => none

/-- The values of a record by the position of their keys, from an object or from an array. -/
def record? (keys : List String) : Json → Option (List (Option Json))
  | object members =>
    if members.all fun (k, _) => (decode? k).isSome then keys.mapM (member? · members) else none
  | array elements =>
    if elements.length ≤ keys.length then
      some (elements.map some ++ List.replicate (keys.length - elements.length) none)
    else none
  | _ => none

/-- A text. -/
def text? : Json → Option String
  | string pieces => decode? pieces
  | _ => none

/-- A truth value. -/
def boolean? : Json → Option Bool
  | boolean b => some b
  | _ => none

/-- A list of values of one kind. -/
def list? {α : Type} (read : Json → Option α) : Json → Option (List α)
  | array elements => elements.mapM read
  | _ => none

/-- A value or `null`. -/
def nullable? {α : Type} (read : Json → Option α) : Json → Option (Option α)
  | null => some none
  | v => (read v).map some

end Json

/-- The value of an optional part of a record. -/
def partOr {α : Type} (default : α) (read : Json → Option α) : Option Json → Option α
  | none => some default
  | some v => read v

/-! ### Entries -/

/-- A parameter in a symbol table. -/
structure ParameterEntry where
  name : String
  type : String
deriving DecidableEq, Repr

/-- A method or constructor in a symbol table. -/
structure MethodEntry where
  name : String
  result : String
  modifiers : List String
  parameters : List ParameterEntry
  exceptions : List String
  annotations : List Annotation
deriving DecidableEq, Repr

/-- A field in a symbol table. -/
structure FieldEntry where
  name : String
  type : String
  modifiers : List String
  annotations : List Annotation
  constant : Option ConstantValue
deriving DecidableEq

/-- A class in a symbol table. -/
structure ClassEntry where
  name : String
  simpleName : Option String
  modifiers : List String
  enclosingInstance : Option String
  constructors : List MethodEntry
  methods : List MethodEntry
  fields : List FieldEntry
deriving DecidableEq

/-- The kinds of annotations. -/
inductive AnnotationKind
  | fieldAccessors
  | methodProxy
  | other
deriving DecidableEq, Repr

/-- How the kind of an annotation may be given: by its name only, or also by its number. -/
inductive KindForm
  | named
  | numbered
deriving DecidableEq, Repr

namespace AnnotationKind

/-- The kind of a name. -/
def ofName (name : String) : AnnotationKind :=
  if name = "field_accessors" then fieldAccessors
  else if name = "method_proxy" then methodProxy
  else other

/-- The kind of a number. -/
def ofNumber : Nat → AnnotationKind
  | 0 => fieldAccessors
  | 1 => methodProxy
  | _ => other

/-- The kind as it is given in one of the forms that are allowed. -/
def ofJson? (form : KindForm) : Json → Option AnnotationKind
  | .string pieces => (Json.decode? pieces).map ofName
  | .number n => if form = .numbered then n.natural?.map ofNumber else none
  | _ => none

/-- An annotation of the kind, from the record of its other parts. -/
def annotation? (kind : AnnotationKind) (parts : Json) : Option Annotation :=
  match kind with
  | fieldAccessors => do
    match ← parts.record? ["getter", "setter"] with
    | [getter, setter] =>
      pure (.fieldAccessors (← partOr false Json.boolean? getter)
        (← partOr false Json.boolean? setter))
    | _ => none
  | methodProxy => do
    match ← parts.record? ["enabled"] with
    | [enabled] => pure (.methodProxy (← partOr true Json.boolean? enabled))
    | _ => none
  | other => do
    let _ ← parts.record? []
    pure .other

end AnnotationKind

/-- An annotation: a record whose `kind` says which other parts it has. In an array the kind comes
first. Annotations stand inside four arrays and objects, and everything in them has to be sound. -/
def Annotation.ofJson? (form : KindForm) (v : Json) : Option Annotation := do
  guard (v.sound 4)
  match v with
  | .object members => do
    let kind ← (← Json.member? "kind" members).bind (AnnotationKind.ofJson? form)
    kind.annotation? v
  | .array (kind :: parts) => do
    let kind ← AnnotationKind.ofJson? form kind
    kind.annotation? (.array parts)
  | _ => none

/-- A list of annotations. -/
def annotationList? (form : KindForm) : Json → Option (List Annotation) :=
  Json.list? fun v => Annotation.ofJson? form v

/-- A constant: a truth value, a number or a text. Integers are as narrow as they can be. -/
def ConstantValue.ofJson? : Json → Option ConstantValue
  | .boolean b => some (.boolean b)
  | .number n => n.value?.map fun
    | .integer i => if i.toInt32.toInt64 = i then .int i.toInt32 else .long i
    | .double x => .double x
  | .string pieces => (Json.decode? pieces).map .string
  | _ => none

/-- A parameter, of which nothing may be left out. -/
def ParameterEntry.ofJson? (v : Json) : Option ParameterEntry := do
  match ← v.record? ["name", "type"] with
  | [some name, some type] => pure ⟨← name.text?, ← type.text?⟩
  | _ => none

/-- A method or constructor. -/
def MethodEntry.ofJson? (form : KindForm) (v : Json) : Option MethodEntry := do
  match ← v.record? ["name", "return_type", "modifiers", "parameters", "exceptions",
      "annotations"] with
  | [name, result, modifiers, parameters, exceptions, annotations] =>
    pure {
      name := ← partOr "" Json.text? name
      result := ← partOr "void" Json.text? result
      modifiers := ← partOr [] (Json.list? Json.text?) modifiers
      parameters := ← partOr [] (Json.list? ParameterEntry.ofJson?) parameters
      exceptions := ← partOr [] (Json.list? Json.text?) exceptions
      annotations := ← partOr [] (annotationList? form) annotations }
  | _ => none

/-- A field, whose name and type may not be left out. -/
def FieldEntry.ofJson? (form : KindForm) (v : Json) : Option FieldEntry := do
  match ← v.record? ["name", "type", "modifiers", "annotations", "constant"] with
  | [some name, some type, modifiers, annotations, constant] =>
    pure {
      name := ← name.text?
      type := ← type.text?
      modifiers := ← partOr [] (Json.list? Json.text?) modifiers
      annotations := ← partOr [] (annotationList? form) annotations
      constant := ← partOr none (Json.nullable? ConstantValue.ofJson?) constant }
  | _ => none

/-- A class. -/
def ClassEntry.ofJson? (form : KindForm) (v : Json) : Option ClassEntry := do
  match ← v.record? ["name", "simple_name", "modifiers", "enclosing_instance", "constructors",
      "methods", "fields"] with
  | [name, simpleName, modifiers, enclosingInstance, constructors, methods, fields] =>
    pure {
      name := ← partOr "" Json.text? name
      simpleName := ← partOr none (Json.nullable? Json.text?) simpleName
      modifiers := ← partOr [] (Json.list? Json.text?) modifiers
      enclosingInstance := ← partOr none (Json.nullable? Json.text?) enclosingInstance
      constructors := ← partOr [] (Json.list? (MethodEntry.ofJson? form)) constructors
      methods := ← partOr [] (Json.list? (MethodEntry.ofJson? form)) methods
      fields := ← partOr [] (Json.list? (FieldEntry.ofJson? form)) fields }
  | _ => none

/-- One class, or an array of classes. What can be read as a class is one, an array of the values
of a class included. Here the kinds of annotations may be numbered. -/
def ClassEntry.listOfJson? (v : Json) : Option (List ClassEntry) :=
  match ClassEntry.ofJson? .numbered v with
  | some entry => some [entry]
  | none => v.list? (ClassEntry.ofJson? .numbered)

/-! ### Models -/

/-- The modifiers with given keywords. -/
def Modifiers.ofKeywords (keywords : List String) : Except Failure Modifiers := do
  let modifiers ← keywords.mapM fun keyword =>
    match Modifier.ofKeyword? keyword with
    | some m => .ok m
    | none => .error (.malformed (.unknownModifier keyword))
  pure (.ofList modifiers)

/-- A parameter, with its type read. -/
def ParameterEntry.toParameter (p : ParameterEntry) : Except Failure Parameter := do
  pure ⟨p.name, ← JavaType.ofSpelling p.type⟩

/-- A method or constructor of a class, with its types and modifiers read. -/
def MethodEntry.toMethod (m : MethodEntry) (className : String) : Except Failure Method := do
  if m.name.isEmpty then .error (.invalidModel (.unnamedMethod className))
  else
    let parameters ← m.parameters.mapM ParameterEntry.toParameter
    let result ← JavaType.ofSpelling m.result
    let modifiers ← Modifiers.ofKeywords m.modifiers
    pure { declaringClass := className, name := m.name, result, parameters, modifiers
           exceptions := m.exceptions, annotations := m.annotations }

/-- A constructor of a class. Its name and result are not those of the entry. -/
def MethodEntry.toConstructor (m : MethodEntry) (className : String) : Except Failure Method :=
  { m with name := constructorName, result := Primitive.void.keyword }.toMethod className

/-- A field of a class, with its type and modifiers read. -/
def FieldEntry.toField (f : FieldEntry) (className : String) : Except Failure Field := do
  let type ← JavaType.ofSpelling f.type
  let modifiers ← Modifiers.ofKeywords f.modifiers
  pure { declaringClass := className, name := f.name, type, modifiers
         annotations := f.annotations, constant := f.constant }

/-- The class model of an entry. -/
def ClassEntry.toModel (c : ClassEntry) : Except Failure ClassModel := do
  let enclosingInstance ← match c.enclosingInstance with
    | some outer => some <$> JavaType.ofSpelling outer
    | none => pure none
  let constructors ← c.constructors.mapM (·.toConstructor c.name)
  let methods ← c.methods.mapM (·.toMethod c.name)
  let fields ← c.fields.mapM (·.toField c.name)
  let modifiers ← Modifiers.ofKeywords c.modifiers
  pure { name := c.name
         simpleName := c.simpleName.getD (simpleNameOf c.name)
         modifiers, enclosingInstance, constructors, methods, fields }

/-- A part of a JSON text that could be read, or the failure to read the text. -/
def readable {α : Type} : Option α → Except Failure α
  | some a => .ok a
  | none => .error .badJson

/-- The class that a symbol table describes. -/
def ClassModel.ofJson (text : String) : Except Failure ClassModel := do
  let v ← readable (Json.parse? text)
  let entry ← readable (ClassEntry.ofJson? .named v)
  entry.toModel

/-- The classes that a symbol table describes. Here everything has to be sound, also under keys that
are passed over. -/
def ClassModel.listOfJson (text : String) : Except Failure (List ClassModel) := do
  let v ← readable (Json.parse? text)
  let entries ← readable (if v.sound 0 then ClassEntry.listOfJson? v else none)
  entries.mapM ClassEntry.toModel

end JniBindings
