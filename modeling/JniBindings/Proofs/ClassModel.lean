import JniBindings.ClassFile.Model
import JniBindings.Proofs.SymbolTable
/-!
# Where class models come from

A class model is read from a symbol table or from a class file, or built member by member. All of
these put nothing but constructors among the constructors (`ClassModel.Arises.isConstructor`).
-/

namespace JniBindings

/-- The entry of a constructor becomes a constructor, whatever name it gives. -/
theorem isConstructor_toConstructor {entry : MethodEntry} {className : String} {m : Method}
    (h : entry.toConstructor className = .ok m) : m.isConstructor :=
  decide_eq_true (MethodEntry.isReadAs_of_toMethod h).name

namespace ClassModel

/-- The class models that arise from reading and building. -/
inductive Arises : ClassModel → Prop
  | ofName (name : String) : Arises (ofName name)
  | withModifiers {c : ClassModel} (h : Arises c) (modifiers : Modifiers) :
    Arises (c.withModifiers modifiers)
  | withEnclosingInstance {c : ClassModel} (h : Arises c) (outer : JavaType) :
    Arises (c.withEnclosingInstance outer)
  | withConstructor {c : ClassModel} (h : Arises c) (parameters : List Parameter)
    (modifiers : Modifiers) : Arises (c.withConstructor parameters modifiers)
  | withMethod {c : ClassModel} (h : Arises c) (name : String) (result : JavaType)
    (parameters : List Parameter) (modifiers : Modifiers) :
    Arises (c.withMethod name result parameters modifiers)
  | withDeclaration {c : ClassModel} (h : Arises c) (m : Method) : Arises (c.withDeclaration m)
  | withField {c : ClassModel} (h : Arises c) (f : Field) : Arises (c.withField f)
  | ofJson {text : String} {c : ClassModel} (h : ofJson text = .ok c) : Arises c
  | listOfJson {text : String} {cs : List ClassModel} (h : listOfJson text = .ok cs)
    {c : ClassModel} (hc : c ∈ cs) : Arises c
  | ofClassFile {bytes : List UInt8} {c : ClassModel} (h : ofClassFile bytes = .ok c) : Arises c

variable {c : ClassModel}

theorem isConstructor_of_toModel {entry : ClassEntry} (h : entry.toModel = .ok c) :
    ∀ m ∈ c.constructors, m.isConstructor :=
  forall_of_mapM (ClassEntry.isReadAs_of_toModel h).constructors fun _ _ =>
    isConstructor_toConstructor

/-- The members of a model that is made from a class file. -/
structure IsMadeFromFile (c : ClassModel) (file : ClassFile) (outer : Option JavaType)
    (members : List Method) (fields : List ClassFile.TypedField) : Prop where
  name : c.name = ClassFile.dotted file.name
  declared : (file.methods.filter (·.isDeclaredMethod)).mapM (·.toMethod c.name outer) = .ok members
  constructors : c.constructors = members.filter Method.isConstructor
  methods : c.methods = members.filter (!·.isConstructor)
  fields : c.fields
    = (fields.filter (!·.info.hasFlag ClassFile.syntheticFlag)).map (·.toField c.name)

theorem exists_isMadeFromFile {file : ClassFile} {c : ClassModel} (h : file.toModel = .ok c) :
    ∃ outer members fields, c.IsMadeFromFile file outer members fields := by
  simp only [ClassFile.toModel] at h
  split at h
  · cases h
  · obtain ⟨fields, -, h⟩ := bind_eq_ok_iff.1 h
    obtain ⟨members, hmembers, h⟩ := bind_eq_ok_iff.1 h
    obtain rfl := Except.ok.inj h
    exact ⟨_, members, fields, rfl, hmembers, rfl, rfl, rfl⟩

theorem IsMadeFromFile.isConstructor {file : ClassFile} {outer : Option JavaType}
    {members : List Method} {fields : List ClassFile.TypedField}
    (h : c.IsMadeFromFile file outer members fields) : ∀ m ∈ c.constructors, m.isConstructor := by
  rw [h.constructors]
  exact fun m hm => (List.mem_filter.1 hm).2

theorem isConstructor_of_ofClassFile {bytes : List UInt8} (h : ofClassFile bytes = .ok c) :
    ∀ m ∈ c.constructors, m.isConstructor := by
  unfold ofClassFile at h
  split at h
  · obtain ⟨_, _, _, hmade⟩ := exists_isMadeFromFile h
    exact hmade.isConstructor
  · cases h

/-- A class model has nothing but constructors among its constructors. -/
theorem Arises.isConstructor (h : c.Arises) : ∀ m ∈ c.constructors, m.isConstructor := by
  induction h with
  | ofName => nofun
  | withModifiers _ _ ih => exact ih
  | withEnclosingInstance _ _ ih => exact ih
  | withMethod _ _ _ _ _ ih => exact ih
  | withField _ _ ih => exact ih
  | withConstructor _ parameters modifiers ih =>
    intro m hm
    rcases List.mem_append.1 hm with hm | hm
    · exact ih m hm
    · obtain rfl := List.mem_singleton.1 hm
      rfl
  | withDeclaration _ m ih =>
    unfold ClassModel.withDeclaration
    dsimp only
    split
    · next hm =>
      intro n hn
      rcases List.mem_append.1 hn with hn | hn
      · exact ih n hn
      · obtain rfl := List.mem_singleton.1 hn
        exact hm
    · exact ih
  | ofJson h =>
    obtain ⟨v, -, h⟩ := bind_eq_ok_iff.1 h
    obtain ⟨entry, -, h⟩ := bind_eq_ok_iff.1 h
    exact isConstructor_of_toModel h
  | listOfJson h hc =>
    obtain ⟨v, -, h⟩ := bind_eq_ok_iff.1 h
    obtain ⟨entries, -, h⟩ := bind_eq_ok_iff.1 h
    obtain ⟨entry, -, hentry⟩ := exists_of_mem_mapM h hc
    exact isConstructor_of_toModel hentry
  | ofClassFile h => exact isConstructor_of_ofClassFile h

end ClassModel

end JniBindings
