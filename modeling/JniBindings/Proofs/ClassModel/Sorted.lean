import JniBindings.Proofs.ClassModel
/-!
# Where members belong

Everything that is made for a class tells constructors from methods by the name `<init>` alone, so
members of this name belong among the constructors and no others do, and all members belong to the
class. Constructors and declarations that are added, and the members of a class file, are put where
they belong. A method that is added goes among the methods whatever its name, and so do the entries
under the methods of a symbol table. The members of a model are in their places exactly if none of
these is called `<init>` (`ClassModel.isWellSorted_iff`).
-/

namespace JniBindings

namespace ClassModel

/-! ### Origins -/

/-- A step in which a class model is built. -/
inductive Step
  | modifiers (modifiers : Modifiers)
  | enclosingInstance (outer : JavaType)
  | constructor (parameters : List Parameter) (modifiers : Modifiers)
  | method (name : String) (result : JavaType) (parameters : List Parameter)
    (modifiers : Modifiers)
  | declaration (m : Method)
  | field (f : Field)

/-- The class model after a step. -/
def Step.apply (c : ClassModel) : Step → ClassModel
  | .modifiers ms => c.withModifiers ms
  | .enclosingInstance outer => c.withEnclosingInstance outer
  | .constructor parameters ms => c.withConstructor parameters ms
  | .method name result parameters ms => c.withMethod name result parameters ms
  | .declaration m => c.withDeclaration m
  | .field f => c.withField f

/-- What a class model is made from: a symbol table, a name with the steps of building, or a class
file. -/
inductive Origin
  | symbolTable (text : String)
  | building (name : String) (steps : List Step)
  | classFile (file : ClassFile)

/-- The class model that is made. -/
def Origin.model : Origin → Except Failure ClassModel
  | symbolTable text => ClassModel.ofJson text
  | building name steps => .ok (steps.foldl Step.apply (ofName name))
  | classFile file => file.toModel

/-! ### Places of members -/

/-- Members named `<init>` are constructors, all others are not, and the class declares them all. -/
structure IsWellSorted (c : ClassModel) : Prop where
  constructors : ∀ m ∈ c.constructors, m.name = constructorName ∧ m.declaringClass = c.name
  methods : ∀ m ∈ c.methods, m.name ≠ constructorName ∧ m.declaringClass = c.name
  fields : ∀ f ∈ c.fields, f.declaringClass = c.name

/-- The class declares all of its members. -/
structure OwnsMembers (c : ClassModel) : Prop where
  constructors : ∀ m ∈ c.constructors, m.declaringClass = c.name
  methods : ∀ m ∈ c.methods, m.declaringClass = c.name
  fields : ∀ f ∈ c.fields, f.declaringClass = c.name

/-- Among the methods is one that is called like a constructor. -/
def misplacesConstructor (c : ClassModel) : Bool := c.methods.any Method.isConstructor

theorem misplacesConstructor_eq_false_iff {c : ClassModel} :
    c.misplacesConstructor = false ↔ ∀ m ∈ c.methods, m.name ≠ constructorName := by
  simp [misplacesConstructor, Method.isConstructor]

theorem IsWellSorted.misplacesConstructor {c : ClassModel} (h : c.IsWellSorted) :
    c.misplacesConstructor = false :=
  misplacesConstructor_eq_false_iff.2 fun m hm => (h.methods m hm).1

/-- If the constructors are in their place and the class declares everything, only its methods can
be out of place. -/
theorem isWellSorted_iff_of_ownsMembers {c : ClassModel}
    (hconstructors : ∀ m ∈ c.constructors, m.isConstructor) (howns : c.OwnsMembers) :
    c.IsWellSorted ↔ c.misplacesConstructor = false := by
  refine ⟨IsWellSorted.misplacesConstructor, fun h => ?_⟩
  rw [misplacesConstructor_eq_false_iff] at h
  exact {
    constructors := fun m hm => ⟨of_decide_eq_true (hconstructors m hm), howns.constructors m hm⟩
    methods := fun m hm => ⟨h m hm, howns.methods m hm⟩
    fields := howns.fields }

/-! ### Building -/

theorem ownsMembers_ofName (name : String) : (ofName name).OwnsMembers := ⟨nofun, nofun, nofun⟩

/-- Whatever a step adds is declared by the class. -/
theorem OwnsMembers.apply {c : ClassModel} (h : c.OwnsMembers) (s : Step) :
    (s.apply c).OwnsMembers := by
  obtain ⟨hconstructors, hmethods, hfields⟩ := h
  cases s with
  | modifiers | enclosingInstance => exact ⟨hconstructors, hmethods, hfields⟩
  | constructor parameters modifiers =>
    refine ⟨List.forall_mem_append.2 ⟨hconstructors, ?_⟩, hmethods, hfields⟩
    exact List.forall_mem_singleton.2 rfl
  | method name result parameters modifiers =>
    refine ⟨hconstructors, List.forall_mem_append.2 ⟨hmethods, ?_⟩, hfields⟩
    exact List.forall_mem_singleton.2 rfl
  | declaration m =>
    unfold Step.apply withDeclaration
    dsimp only
    split
    · refine ⟨List.forall_mem_append.2 ⟨hconstructors, ?_⟩, hmethods, hfields⟩
      exact List.forall_mem_singleton.2 rfl
    · refine ⟨hconstructors, List.forall_mem_append.2 ⟨hmethods, ?_⟩, hfields⟩
      exact List.forall_mem_singleton.2 rfl
  | field f =>
    refine ⟨hconstructors, hmethods, List.forall_mem_append.2 ⟨hfields, ?_⟩⟩
    exact List.forall_mem_singleton.2 rfl

theorem OwnsMembers.foldl {c : ClassModel} (h : c.OwnsMembers) (steps : List Step) :
    (steps.foldl Step.apply c).OwnsMembers := by
  induction steps generalizing c with
  | nil => exact h
  | cons s steps ih => exact ih (h.apply s)

theorem Arises.apply {c : ClassModel} (h : c.Arises) (s : Step) : (s.apply c).Arises := by
  cases s with
  | modifiers modifiers => exact h.withModifiers modifiers
  | enclosingInstance outer => exact h.withEnclosingInstance outer
  | constructor parameters modifiers => exact h.withConstructor parameters modifiers
  | method name result parameters modifiers => exact h.withMethod name result parameters modifiers
  | declaration m => exact h.withDeclaration m
  | field f => exact h.withField f

theorem Arises.foldl {c : ClassModel} (h : c.Arises) (steps : List Step) :
    (steps.foldl Step.apply c).Arises := by
  induction steps generalizing c with
  | nil => exact h
  | cons s steps ih => exact ih (h.apply s)

/-- The step adds a method that is called like a constructor. -/
def Step.misplacesConstructor : Step → Bool
  | .method name _ _ _ => name = constructorName
  | _ => false

/-- A step puts a constructor among the methods only if it adds a method of that name. -/
theorem misplacesConstructor_apply (c : ClassModel) (s : Step) :
    (s.apply c).misplacesConstructor = (c.misplacesConstructor || s.misplacesConstructor) := by
  cases s with
  | declaration m =>
    unfold misplacesConstructor Step.apply withDeclaration
    dsimp only
    split
    · simp [Step.misplacesConstructor]
    · next hm => simp [Step.misplacesConstructor, eq_false_of_ne_true hm]
  | method name result parameters modifiers =>
    simp [misplacesConstructor, Step.apply, withMethod, Step.misplacesConstructor,
      Method.isConstructor]
  | modifiers | enclosingInstance | constructor | field =>
    exact (Bool.or_false _).symm

theorem misplacesConstructor_foldl (c : ClassModel) (steps : List Step) :
    (steps.foldl Step.apply c).misplacesConstructor
      = (c.misplacesConstructor || steps.any Step.misplacesConstructor) := by
  induction steps generalizing c with
  | nil => exact (Bool.or_false _).symm
  | cons s steps ih =>
    rw [List.foldl_cons, ih, misplacesConstructor_apply, List.any_cons, Bool.or_assoc]

/-! ### Symbol tables -/

/-- The entry of a class that is described by a symbol table. -/
def entryOfTable? (text : String) : Option ClassEntry :=
  (Json.parse? text).bind (ClassEntry.ofJson? .named)

theorem exists_entry_of_ofJson {text : String} {c : ClassModel} (h : ofJson text = .ok c) :
    ∃ entry, entryOfTable? text = some entry ∧ entry.IsReadAs c := by
  obtain ⟨v, hv, h⟩ := bind_eq_ok_iff.1 h
  obtain ⟨entry, hentry, h⟩ := bind_eq_ok_iff.1 h
  rw [readable_eq_ok_iff] at hv hentry
  refine ⟨entry, ?_, ClassEntry.isReadAs_of_toModel h⟩
  rw [entryOfTable?, hv]
  exact hentry

theorem declaringClass_of_toField {f : FieldEntry} {className : String} {field : Field}
    (h : f.toField className = .ok field) : field.declaringClass = className := by
  obtain ⟨type, -, h⟩ := bind_eq_ok_iff.1 h
  obtain ⟨modifiers, -, h⟩ := bind_eq_ok_iff.1 h
  obtain rfl := Except.ok.inj h
  rfl

theorem ownsMembers_of_isReadAs {entry : ClassEntry} {c : ClassModel} (h : entry.IsReadAs c) :
    c.OwnsMembers := by
  refine ⟨?_, ?_, ?_⟩ <;> rw [h.name]
  · exact forall_of_mapM h.constructors fun _ _ hm =>
      (MethodEntry.isReadAs_of_toMethod hm).declaringClass
  · exact forall_of_mapM h.methods fun _ _ hm =>
      (MethodEntry.isReadAs_of_toMethod hm).declaringClass
  · exact forall_of_mapM h.fields fun _ _ => declaringClass_of_toField

/-- The methods of the model have the names of the entries under the methods of the table. -/
theorem misplacesConstructor_of_isReadAs {entry : ClassEntry} {c : ClassModel}
    (h : entry.IsReadAs c) :
    c.misplacesConstructor = entry.methods.any (·.name = constructorName) := by
  have hnames : entry.methods.map MethodEntry.name = c.methods.map Method.name :=
    map_eq_map_of_forall₂ (mapM_eq_ok_iff.1 h.methods) fun _ _ hm =>
      (MethodEntry.isReadAs_of_toMethod hm).name.symm
  have hany := congrArg (List.any · fun name => decide (name = constructorName)) hnames
  rw [List.any_map, List.any_map] at hany
  exact hany.symm

/-! ### Class files -/

section

variable {c : ClassModel} {file : ClassFile} {outer : Option JavaType} {members : List Method}
  {fields : List ClassFile.TypedField} (h : c.IsMadeFromFile file outer members fields)
include h

theorem IsMadeFromFile.ownsMembers : c.OwnsMembers := by
  have hmembers : ∀ m ∈ members, m.declaringClass = c.name := by
    refine forall_of_mapM h.declared fun info m hm => ?_
    obtain ⟨type, -, hm⟩ := bind_eq_ok_iff.1 hm
    obtain rfl := Except.ok.inj hm
    rfl
  refine ⟨?_, ?_, ?_⟩
  · rw [h.constructors]
    exact fun m hm => hmembers m (List.mem_of_mem_filter hm)
  · rw [h.methods]
    exact fun m hm => hmembers m (List.mem_of_mem_filter hm)
  · rw [h.fields]
    rintro _ hf
    obtain ⟨f, -, rfl⟩ := List.mem_map.1 hf
    rfl

theorem IsMadeFromFile.misplacesConstructor : c.misplacesConstructor = false := by
  rw [ClassModel.misplacesConstructor, h.methods, List.any_eq_false]
  intro m hm
  simpa using (List.mem_filter.1 hm).2

end

/-! ### All origins -/

/-- What is called like a constructor comes to stand among the methods: by a step that adds a method
of that name, or by an entry of that name under the methods of a symbol table. -/
def Origin.misplacesConstructor : Origin → Bool
  | symbolTable text => (entryOfTable? text).any fun entry =>
    entry.methods.any (·.name = constructorName)
  | building _ steps => steps.any Step.misplacesConstructor
  | classFile _ => false

/-- Whatever a class model is made from, it has nothing but constructors among its constructors and
declares all of its members. Its members are all in their places if and only if nothing that is
called like a constructor has been put among the methods. -/
theorem isWellSorted_iff {o : Origin} {c : ClassModel} (h : o.model = .ok c) :
    (c.IsWellSorted ↔ o.misplacesConstructor = false)
      ∧ (∀ m ∈ c.constructors, m.isConstructor) ∧ c.OwnsMembers := by
  suffices hparts : (∀ m ∈ c.constructors, m.isConstructor) ∧ c.OwnsMembers
      ∧ c.misplacesConstructor = o.misplacesConstructor by
    obtain ⟨hconstructors, howns, hmisplaces⟩ := hparts
    refine ⟨?_, hconstructors, howns⟩
    rw [isWellSorted_iff_of_ownsMembers hconstructors howns, hmisplaces]
  cases o with
  | symbolTable text =>
    obtain ⟨entry, htable, hread⟩ := exists_entry_of_ofJson h
    refine ⟨(Arises.ofJson h).isConstructor, ownsMembers_of_isReadAs hread, ?_⟩
    rw [misplacesConstructor_of_isReadAs hread, Origin.misplacesConstructor, htable]
    rfl
  | building name steps =>
    obtain rfl := Except.ok.inj h
    refine ⟨((Arises.ofName name).foldl steps).isConstructor,
      (ownsMembers_ofName name).foldl steps, ?_⟩
    exact misplacesConstructor_foldl (ofName name) steps
  | classFile file =>
    obtain ⟨_, _, _, hmade⟩ := exists_isMadeFromFile h
    exact ⟨hmade.isConstructor, hmade.ownsMembers, hmade.misplacesConstructor⟩

/-- A class with a method, and with a constructor and a field that other classes have declared. -/
def mixedSteps : List Step :=
  [.method "f" .void [] (.ofList [.isPublic]),
    .declaration ⟨"b.C", constructorName, .void, [], .ofList [.isPublic], [], []⟩,
    .field ⟨"", "x", .primitive .int, .ofList [.isPublic], [], none⟩]

theorem isWellSorted_iff_mixedSteps :
    ∃ c, (Origin.building "a.B" mixedSteps).model = .ok c ∧ c.IsWellSorted
      ∧ c.methods.length = 1 ∧ c.constructors.length = 1 := by
  refine ⟨_, rfl, ?_, by decide, by decide⟩
  exact (isWellSorted_iff (o := .building "a.B" mixedSteps) rfl).1.2 (by decide)

/-- A method named `<init>` that is added to a class, and one that stands under the methods of a
symbol table, whose records are written as arrays here. -/
theorem exists_not_isWellSorted :
    (∃ c, (Origin.building "a.B" [.method constructorName .void [] (.ofList [.isPublic])]).model
      = .ok c ∧ ¬ c.IsWellSorted)
    ∧ ∃ c, (Origin.symbolTable "[\"a.B\",null,[],null,[],[[\"<init>\"]]]").model = .ok c
      ∧ ¬ c.IsWellSorted := by
  refine ⟨⟨_, rfl, fun h => absurd h.misplacesConstructor (by decide)⟩, ?_⟩
  have htable : misplacesConstructor
      <$> (Origin.symbolTable "[\"a.B\",null,[],null,[],[[\"<init>\"]]]").model = .ok true := by
    decide +kernel
  obtain ⟨c, hc, hmisplaced⟩ := map_eq_ok_iff.1 htable
  refine ⟨c, hc, fun h => ?_⟩
  rw [h.misplacesConstructor] at hmisplaced
  cases hmisplaced

end ClassModel

end JniBindings
