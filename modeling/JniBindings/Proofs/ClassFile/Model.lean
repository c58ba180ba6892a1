import JniBindings.ClassFile.Model
import JniBindings.Proofs.ClassFile.Reader
import JniBindings.Proofs.Member
/-!
# Members of class files and of class models

A class model has the declared members of its class file in their order, and their descriptors are
those of the class file. The one exception are constructors of a class with an enclosing instance
that do not take that instance first: the model takes it for a parameter of theirs all the same
(`describes_of_hasDescriptors`).
-/

namespace JniBindings

namespace JavaType

/-- The first of several descriptors can be told from their beginning. -/
theorem isPrefix_flatMap_append_iff {t : JavaType} (ht : t.HasNames IsDescribed)
    {ts : List JavaType} (hts : ∀ u ∈ ts, u.HasNames IsDescribed) {rest : List Char}
    (hrest : ∀ c, rest.head? = some c → beginsDescriptor c = false) :
    t.descriptorChars <+: ts.flatMap descriptorChars ++ rest ↔ ts.head? = some t := by
  rcases ts with _ | ⟨u, ts⟩
  · refine iff_of_false (fun h => ?_) nofun
    obtain ⟨c, tail, hchars, hc⟩ := exists_descriptorChars_cons ht
    obtain ⟨back, hback⟩ := h
    rw [hchars, List.cons_append, List.flatMap_nil, List.nil_append] at hback
    rw [hrest c (by rw [← hback, List.head?_cons])] at hc
    cases hc
  rw [List.flatMap_cons, List.append_assoc, List.head?_cons, Option.some.injEq]
  constructor
  · rintro ⟨back, hback⟩
    have hread := read_descriptorChars_append (hts u List.mem_cons_self)
      (ts.flatMap descriptorChars ++ rest)
    rw [← hback, read_descriptorChars_append ht] at hread
    exact (Prod.mk.inj (Except.ok.inj hread)).1.symm
  · rintro rfl
    exact List.prefix_append _ _

end JavaType

theorem MethodType.descriptor_eq_ok_iff {m n : MethodType} (hm : m.HasNames JavaType.IsDescribed)
    (hn : n.HasNames JavaType.IsDescribed) {d : String} (hd : m.descriptor = .ok d) :
    n.descriptor = .ok d ↔ n = m := by
  constructor
  · intro h
    have hread := ofDescriptor_descriptor hn h
    rw [ofDescriptor_descriptor hm hd] at hread
    exact (Except.ok.inj hread).symm
  · rintro rfl
    exact hd

namespace ClassFile

/-! ### Members of the model -/

/-- The constructor takes the enclosing instance, if there is one, as its first parameter. -/
def MemberInfo.TakesFirst (outer : Option JavaType) (m : MemberInfo) : Prop :=
  ∀ t ∈ outer, '(' :: t.descriptorChars <+: m.descriptor.toList

instance (outer : Option JavaType) (m : MemberInfo) : Decidable (m.TakesFirst outer) :=
  inferInstanceAs (Decidable (∀ t ∈ outer, '(' :: t.descriptorChars <+: m.descriptor.toList))

theorem types_numbered (types : List JavaType) : (numbered types).map Parameter.type = types := by
  rw [numbered, List.map_map]
  exact types.zipIdx_map_fst 0

/-- What the model leaves out at the front of the parameters is what it puts there again, if the
enclosing instance stands there. -/
theorem append_declaredParameters_eq_iff {outer : Option JavaType} {types : List JavaType} :
    outer.toList ++ declaredParameters outer types = types ↔ ∀ t ∈ outer, types.head? = some t := by
  rcases outer with _ | outer
  · exact iff_of_true rfl nofun
  rcases types with _ | ⟨first, rest⟩
  · exact iff_of_false nofun fun h => nomatch h outer rfl
  rw [declaredParameters]
  split_ifs with hfirst
  · subst hfirst
    exact iff_of_true rfl fun t ht => ht
  · refine iff_of_false (fun h => ?_) fun h => hfirst (Option.some.inj (h outer rfl))
    simpa using congrArg List.length h

theorem takesFirst_iff {outer : Option JavaType}
    (houter : ∀ t ∈ outer, t.HasNames JavaType.IsDescribed) {m : MemberInfo} {type : MethodType}
    (htype : type.HasNames JavaType.IsDescribed) (hm : type.descriptor = .ok m.descriptor) :
    m.TakesFirst outer ↔ ∀ t ∈ outer, type.parameters.head? = some t := by
  have hchars : m.descriptor.toList = type.descriptorChars := by
    rw [MethodType.descriptor_of_hasNames htype] at hm
    rw [← Except.ok.inj hm, String.toList_ofList]
  refine forall₂_congr fun t ht => ?_
  rw [hchars, MethodType.descriptorChars, List.cons_append, List.prefix_cons_inj]
  exact JavaType.isPrefix_flatMap_append_iff (houter t ht) htype.parameters
    (by rintro c ⟨⟩; decide)

theorem mem_declaredParameters {outer : Option JavaType} {types : List JavaType} {t : JavaType}
    (h : t ∈ declaredParameters outer types) : t ∈ types := by
  rw [declaredParameters.eq_def] at h
  split at h
  · split at h
    · exact List.mem_cons_of_mem _ h
    · exact h
  · exact h

/-- A constructor keeps its descriptor if it takes the enclosing instance first, and all other
methods keep theirs. -/
theorem exists_toMethod (className : String) {outer : Option JavaType}
    (houter : ∀ t ∈ outer, t.HasNames JavaType.IsDescribed) {info : MemberInfo}
    (h : isMethodDescriptor info.descriptor) :
    ∃ m, info.toMethod className outer = .ok m ∧ m.name = info.name
      ∧ (m.descriptor outer = .ok info.descriptor
        ↔ (info.name = constructorName → info.TakesFirst outer)) := by
  obtain ⟨type, htype, hd⟩ := exists_type_of_isMethodDescriptor h
  have hread := MethodType.ofDescriptor_descriptor htype hd
  refine ⟨_, bind_eq_ok_iff.2 ⟨type, hread, rfl⟩, rfl, ?_⟩
  rw [Method.descriptor, blame_eq_ok_iff, takesFirst_iff houter htype hd, Method.jvmType,
    Method.jvmParameters]
  simp only [Method.isConstructor, Method.parameterTypes, types_numbered, decide_eq_true_eq]
  by_cases hname : info.name = constructorName
  · rw [if_pos hname, if_pos hname, ← append_declaredParameters_eq_iff]
    have hnames : MethodType.HasNames JavaType.IsDescribed
        ⟨outer.toList ++ declaredParameters outer type.parameters, type.result⟩ := by
      refine ⟨fun t ht => ?_, htype.result⟩
      rcases List.mem_append.1 ht with ht | ht
      · exact houter t (Option.mem_toList.1 ht)
      · exact htype.parameters t (mem_declaredParameters ht)
    rw [MethodType.descriptor_eq_ok_iff htype hnames hd]
    constructor
    · intro h _
      exact congrArg MethodType.parameters h
    · intro h
      rw [h hname]
  · rw [if_neg hname, if_neg hname]
    exact iff_of_true hd fun h => absurd h hname

/-- The type of a field is read back from its descriptor. -/
structure TypedField.IsReadFrom (m : MemberInfo) (f : TypedField) : Prop where
  info : f.info = m
  hasNames : f.type.HasNames JavaType.IsDescribed
  descriptor : f.type.descriptor = .ok m.descriptor

theorem exists_typed {m : MemberInfo} (h : isFieldDescriptor m.descriptor) :
    ∃ f, m.typed = .ok f ∧ f.IsReadFrom m := by
  obtain ⟨t, ht, hd⟩ := exists_type_of_isFieldDescriptor h
  have hread := JavaType.ofDescriptor_of_descriptor hd (JavaType.hasNames_iff.1 ht).2
  refine ⟨⟨m, t⟩, ?_, rfl, ht, hd⟩
  rw [MemberInfo.typed, hread]
  rfl

theorem hasNames_outerType {className : String} {fields : List TypedField}
    (h : ∀ f ∈ fields, f.type.HasNames JavaType.IsDescribed) :
    ∀ t ∈ outerType className fields, t.HasNames JavaType.IsDescribed := by
  intro t ht
  obtain ⟨f, hf, rfl⟩ := Option.map_eq_some_iff.1 ht
  exact h f (List.mem_of_mem_filter (List.mem_of_getLast? hf))

end ClassFile

/-! ### All members -/

/-- The model has the declared members of the class file, in their order and with their
descriptors. The constructors of an inner class have theirs if they take the enclosing instance
first. -/
structure ClassModel.Describes (model : ClassModel) (file : ClassFile) : Prop where
  constructors : List.Forall₂
    (fun info c => c.name = info.name ∧ (c.descriptor model.enclosingInstance = .ok info.descriptor
      ↔ info.TakesFirst model.enclosingInstance))
    ((file.methods.filter (·.isDeclaredMethod)).filter (·.name = constructorName))
    model.constructors
  methods : List.Forall₂
    (fun info m => m.name = info.name
      ∧ m.descriptor model.enclosingInstance = .ok info.descriptor)
    ((file.methods.filter (·.isDeclaredMethod)).filter (·.name ≠ constructorName))
    model.methods
  fields : List.Forall₂
    (fun info f => f.name = info.name ∧ f.type.descriptor = .ok info.descriptor)
    (file.fields.filter (!·.hasFlag ClassFile.syntheticFlag))
    model.fields

/-- The members with a property, in two lists whose members are related one by one. -/
theorem forall₂_filter {α β : Type} {R : α → β → Prop} {p : α → Bool} {q : β → Bool} {xs : List α}
    {ys : List β} (h : List.Forall₂ R xs ys) (hpq : ∀ x y, R x y → q y = p x) :
    List.Forall₂ (fun x y => p x ∧ R x y) (xs.filter p) (ys.filter q) := by
  refine (List.forall₂_and_left _ _).2 ⟨fun x hx => List.of_mem_filter hx, ?_⟩
  exact List.rel_filter (fun x y hxy => (congrArg (· = true) (hpq x y hxy)).symm.to_iff) h

namespace ClassFile

variable {file : ClassFile}

theorem exists_describes (h : file.HasDescriptors) (hname : file.name ≠ "") :
    ∃ model, file.toModel = .ok model ∧ model.Describes file := by
  have hdotted : (dotted file.name).isEmpty = false := by
    simpa [dotted, Text.replaceChar] using hname
  obtain ⟨fields, hfields, hf⟩ := exists_mapM_eq_ok fun f hf => exists_typed (h.fields f hf)
  have hnames : ∀ t ∈ outerType (dotted file.name) fields, t.HasNames JavaType.IsDescribed := by
    refine hasNames_outerType fun f hmem => ?_
    obtain ⟨info, -, hread⟩ := exists_of_mem_forall₂ hf hmem
    exact hread.hasNames
  obtain ⟨members, hmembers, hm⟩ := exists_mapM_eq_ok fun m hm =>
    exists_toMethod (dotted file.name) hnames (h.methods m (List.mem_of_mem_filter hm))
  simp only [toModel, hdotted, Bool.false_eq_true, if_false]
  refine ⟨_, bind_eq_ok_iff.2 ⟨fields, hfields, bind_eq_ok_iff.2 ⟨members, hmembers, rfl⟩⟩,
    ?_, ?_, ?_⟩
  · have hconstructors := forall₂_filter (p := fun m => m.name = constructorName) hm
      fun info m ⟨hname, _⟩ => by rw [← hname]
    refine hconstructors.imp ?_
    rintro info m ⟨hinit, hname, hd⟩
    exact ⟨hname, hd.trans (forall_prop_of_true (of_decide_eq_true hinit))⟩
  · have hmethods := forall₂_filter (p := fun m => m.name ≠ constructorName) hm
      fun info m ⟨hname, _⟩ => by rw [← hname, decide_not]
    refine hmethods.imp ?_
    rintro info m ⟨hinit, hname, hd⟩
    exact ⟨hname, hd.2 fun h => absurd h (of_decide_eq_true hinit)⟩
  · rw [List.forall₂_map_right_iff]
    have hkept := forall₂_filter (p := fun f => !f.hasFlag syntheticFlag)
      (q := fun f => !f.info.hasFlag syntheticFlag) hf fun info f hread => by rw [hread.info]
    refine hkept.imp ?_
    rintro info f ⟨-, hread⟩
    exact ⟨congrArg MemberInfo.name hread.info, hread.descriptor⟩

/-- A class file with a name becomes a model with its members, and with the descriptors they have in
the class file unless a constructor of an inner class does without the enclosing instance. A class
file without a name is refused. -/
theorem describes_of_hasDescriptors (h : file.HasDescriptors) :
    (file.name ≠ "" → ∃ model, file.toModel = .ok model ∧ model.Describes file)
      ∧ (file.name = "" → file.toModel = .error (.invalidModel .unnamedClassFile)) := by
  refine ⟨exists_describes h, fun hname => ?_⟩
  rw [toModel, hname]
  rfl

/-- The bytes of a class file become a model that describes it. -/
theorem describes_of_parse? {bytes : List UInt8} (h : parse? bytes = some file) :
    ∃ model, ClassModel.ofClassFile bytes = .ok model ∧ model.Describes file := by
  obtain ⟨hdescriptors, hname⟩ := hasDescriptors_of_parse? h
  rw [ClassModel.ofClassFile, h]
  exact exists_describes hdescriptors hname

/-- The class file of `a.Outer$Inner`, with a constructor that takes the instance of `a.Outer` and
one that does without it. -/
def innerClass : ClassFile where
  flags := 0x1
  name := "a/Outer$Inner"
  fields := [⟨0x1010, "this$0", "La/Outer;", []⟩, ⟨0x1, "size", "[J", []⟩]
  methods := [⟨0x1, "<init>", "(La/Outer;I)V", []⟩, ⟨0x2, "<init>", "(I)V", []⟩,
    ⟨0x1001, "access$000", "(La/Outer$Inner;)V", []⟩, ⟨0x1, "run", "(I)La/Outer;", []⟩]

theorem hasDescriptors_innerClass : innerClass.HasDescriptors := by
  refine ⟨?_, ?_⟩ <;> decide +kernel

theorem describes_innerClass :
    innerClass.HasDescriptors
      ∧ (∃ model, innerClass.toModel = .ok model ∧ model.Describes innerClass)
      ∧ innerClass.methods.map (fun m => decide (m.TakesFirst (some (.declared "a.Outer"))))
        = [true, false, false, false] := by
  refine ⟨hasDescriptors_innerClass,
    (describes_of_hasDescriptors hasDescriptors_innerClass).1 (by decide), ?_⟩
  decide +kernel

/-- The second constructor is looked up under the descriptor of the first. -/
theorem exists_constructor_descriptor_ne :
    ∃ model, innerClass.toModel = .ok model
      ∧ model.constructors.map (·.descriptor model.enclosingInstance)
        = [.ok "(La/Outer;I)V", .ok "(La/Outer;I)V"]
      ∧ ¬ List.Forall₂ (fun info c => c.descriptor model.enclosingInstance = .ok info.descriptor)
        ((innerClass.methods.filter (·.isDeclaredMethod)).filter (·.name = constructorName))
        model.constructors := by
  have hmodel : innerClass.toModel.toOption.map
      (fun model => model.constructors.map (·.descriptor model.enclosingInstance))
        = some [.ok "(La/Outer;I)V", .ok "(La/Outer;I)V"] := by decide +kernel
  obtain ⟨model, hok, hdescriptors⟩ := Option.map_eq_some_iff.1 hmodel
  refine ⟨model, ?_, hdescriptors, fun h => ?_⟩
  · cases hread : innerClass.toModel with
    | error failure => rw [hread] at hok; cases hok
    | ok model' => rw [hread] at hok; rw [Option.some.inj hok]
  · have heq := map_eq_map_of_forall₂ (f := fun info : MemberInfo => Except.ok info.descriptor) h
      fun _ _ h => h.symm
    rw [hdescriptors] at heq
    revert heq
    decide +kernel

end ClassFile

end JniBindings
