import JniBindings.Proofs.JavaType.Spelling
import JniBindings.Proofs.Member
import JniBindings.SymbolTable
/-!
# Types in symbol tables

A symbol table spells the types of members and of the enclosing instance, so that all types in a
model that is read from it are made from classes whose names consist of name characters
(`ClassModel.typesHave_ofJson`).
-/

namespace JniBindings

/-- All types in the class model have a property. -/
structure ClassModel.TypesHave (p : JavaType → Prop) (c : ClassModel) : Prop where
  enclosingInstance : ∀ t ∈ c.enclosingInstance, p t
  constructors : ∀ m ∈ c.constructors, ∀ t ∈ m.types, p t
  methods : ∀ m ∈ c.methods, ∀ t ∈ m.types, p t
  fields : ∀ f ∈ c.fields, p f.type

theorem readable_eq_ok_iff {α : Type} {a? : Option α} {a : α} :
    readable a? = .ok a ↔ a? = some a := by
  cases a? with
  | none => exact iff_of_false nofun nofun
  | some b => simp [readable]

/-- What is read from texts by a reader has the property that each value it reads has. -/
theorem forall_of_mapM {ε α β : Type} {f : α → Except ε β} {q : β → Prop} {xs : List α}
    {ys : List β} (h : xs.mapM f = .ok ys) (hf : ∀ x y, f x = .ok y → q y) : ∀ y ∈ ys, q y := by
  intro y hy
  obtain ⟨x, -, hx⟩ := exists_of_mem_mapM h hy
  exact hf x y hx

/-- What a method is read from. -/
structure MethodEntry.IsReadAs (entry : MethodEntry) (className : String) (m : Method) : Prop where
  declaringClass : m.declaringClass = className
  name : m.name = entry.name
  parameters : entry.parameters.mapM ParameterEntry.toParameter = .ok m.parameters
  result : JavaType.ofSpelling entry.result = .ok m.result

theorem MethodEntry.isReadAs_of_toMethod {entry : MethodEntry} {className : String} {m : Method}
    (h : entry.toMethod className = .ok m) : entry.IsReadAs className m := by
  unfold toMethod at h
  split at h
  · cases h
  · obtain ⟨parameters, hparameters, h⟩ := bind_eq_ok_iff.1 h
    obtain ⟨result, hresult, h⟩ := bind_eq_ok_iff.1 h
    obtain ⟨modifiers, -, h⟩ := bind_eq_ok_iff.1 h
    have hm := Except.ok.inj h
    subst hm
    exact ⟨rfl, rfl, hparameters, hresult⟩

/-- What a class model is read from. -/
structure ClassEntry.IsReadAs (entry : ClassEntry) (c : ClassModel) : Prop where
  name : c.name = entry.name
  enclosingInstance : ∀ t ∈ c.enclosingInstance, ∃ text, JavaType.ofSpelling text = .ok t
  constructors : entry.constructors.mapM (·.toConstructor entry.name) = .ok c.constructors
  methods : entry.methods.mapM (·.toMethod entry.name) = .ok c.methods
  fields : entry.fields.mapM (·.toField entry.name) = .ok c.fields

theorem ClassEntry.isReadAs_of_toModel {entry : ClassEntry} {c : ClassModel}
    (h : entry.toModel = .ok c) : entry.IsReadAs c := by
  unfold toModel at h
  split at h
  all_goals
    obtain ⟨enclosingInstance, henclosing, h⟩ := bind_eq_ok_iff.1 h
    obtain ⟨constructors, hconstructors, h⟩ := bind_eq_ok_iff.1 h
    obtain ⟨methods, hmethods, h⟩ := bind_eq_ok_iff.1 h
    obtain ⟨fields, hfields, h⟩ := bind_eq_ok_iff.1 h
    obtain ⟨modifiers, -, h⟩ := bind_eq_ok_iff.1 h
    have hc := Except.ok.inj h
    subst hc
    refine ⟨rfl, ?_, hconstructors, hmethods, hfields⟩
    rintro t ⟨⟩
  · obtain ⟨u, hu, hut⟩ := map_eq_ok_iff.1 henclosing
    obtain rfl := Option.some.inj hut
    exact ⟨_, hu⟩
  · cases henclosing

theorem MethodEntry.IsReadAs.typesHave {entry : MethodEntry} {className : String} {m : Method}
    (h : entry.IsReadAs className m) : ∀ t ∈ m.types, t.NamesHave IsNameText := by
  refine List.forall_mem_cons.2 ⟨JavaType.namesHave_ofSpelling h.result, ?_⟩
  rw [Method.parameterTypes, List.forall_mem_map]
  refine forall_of_mapM h.parameters fun entry p hp => ?_
  obtain ⟨type, htype, hp⟩ := bind_eq_ok_iff.1 hp
  have hp := Except.ok.inj hp
  subst hp
  exact JavaType.namesHave_ofSpelling htype

theorem namesHave_toField {f : FieldEntry} {className : String} {field : Field}
    (h : f.toField className = .ok field) : field.type.NamesHave IsNameText := by
  obtain ⟨type, htype, h⟩ := bind_eq_ok_iff.1 h
  obtain ⟨modifiers, -, h⟩ := bind_eq_ok_iff.1 h
  have hfield := Except.ok.inj h
  subst hfield
  exact JavaType.namesHave_ofSpelling htype

theorem ClassEntry.IsReadAs.typesHave {entry : ClassEntry} {c : ClassModel}
    (h : entry.IsReadAs c) : c.TypesHave (JavaType.NamesHave IsNameText) where
  enclosingInstance t ht := by
    obtain ⟨text, htext⟩ := h.enclosingInstance t ht
    exact JavaType.namesHave_ofSpelling htext
  constructors := forall_of_mapM h.constructors fun _ _ hm =>
    (MethodEntry.isReadAs_of_toMethod hm).typesHave
  methods := forall_of_mapM h.methods fun _ _ hm => (MethodEntry.isReadAs_of_toMethod hm).typesHave
  fields := forall_of_mapM h.fields fun _ _ => namesHave_toField

/-- A model that is read from a symbol table has types made from classes with spelled names. -/
theorem ClassModel.typesHave_ofJson {text : String} {c : ClassModel} (h : ofJson text = .ok c) :
    c.TypesHave (JavaType.NamesHave IsNameText) := by
  obtain ⟨v, -, h⟩ := bind_eq_ok_iff.1 h
  obtain ⟨entry, -, h⟩ := bind_eq_ok_iff.1 h
  exact (ClassEntry.isReadAs_of_toModel h).typesHave

end JniBindings
