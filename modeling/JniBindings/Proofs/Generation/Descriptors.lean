import JniBindings.Proofs.ClassFile.Representable
import JniBindings.Proofs.ClassNames
import JniBindings.Proofs.Glue.Binding
import JniBindings.Proofs.Proxy.Members
import JniBindings.Proofs.SymbolTable
/-!
# Descriptors of generated members

The descriptors in what is generated for a class from a symbol table are as the virtual machine
wants them for exactly the members whose types it can represent
(`isDescriptor_iff_isRepresentable`). Not all others are refused: arrays of `void` with more than
one level, parameters and fields of type `void` and names of classes with empty segments are let
through.
-/

namespace JniBindings

open ClassFile (isFieldDescriptor isMethodDescriptor)

/-- The virtual machine can represent the parameters that it sees of the method, and the result
unless there is none. -/
def Method.isRepresentable (m : Method) (enclosing : Option JavaType) : Bool :=
  (m.jvmParameters enclosing).all JavaType.isRepresentable
    && (m.result = .void || m.result.isRepresentable)

theorem Method.isMethodDescriptor_iff {m : Method} {enclosing : Option JavaType} {d : String}
    (h : m.descriptor enclosing = .ok d) (hm : ∀ t ∈ m.types, t.NamesHave IsNameText)
    (henclosing : ∀ t ∈ enclosing, t.NamesHave IsNameText) :
    isMethodDescriptor d ↔ m.isRepresentable enclosing := by
  have hd := blame_eq_ok_iff.1 h
  obtain ⟨hparameters, hresult⟩ := MethodType.isDescribable_of_descriptor hd
  have hnames : (m.jvmType enclosing).HasNames IsNameText := by
    refine ⟨fun t ht => ?_, JavaType.hasNames_iff.2 ⟨hresult, hm _ List.mem_cons_self⟩⟩
    refine JavaType.hasNames_iff.2 ⟨List.all_eq_true.1 hparameters t ht, ?_⟩
    rcases mem_jvmParameters ht with ht | ht
    · exact henclosing t ht
    · exact hm t (List.mem_cons_of_mem _ ht)
  rw [ClassFile.isMethodDescriptor_iff hnames hd, Method.isRepresentable, Bool.and_eq_true,
    Bool.or_eq_true, decide_eq_true_eq]
  rfl

/-- The descriptors of what is generated for a class from a symbol table are valid for the members
with types that the virtual machine can represent, and for no others. -/
theorem isDescriptor_iff_isRepresentable {text : String} {c : ClassModel} {names : ClassNames}
    (hc : ClassModel.ofJson text = .ok c) (hnames : ClassNames.ofModel c = .ok names)
    (config : Config) :
    (∀ p, Proxy.ofModel config names c = .ok p →
        List.Forall₂ (fun m v => isMethodDescriptor v.descriptor
          ↔ m.isRepresentable c.enclosingInstance) (config.proxiedConstructors c) p.constructors
        ∧ List.Forall₂ (fun m v => isMethodDescriptor v.descriptor ↔ m.isRepresentable none)
          (config.proxiedMethods c) p.methods
        ∧ List.Forall₂ (fun f v => isFieldDescriptor v.descriptor ↔ f.type.isRepresentable)
          (config.proxiedFields c) p.fields)
      ∧ ∀ g, Glue.ofModel config names c = .ok g →
        List.Forall₂ (fun m v => isMethodDescriptor v.descriptor ↔ m.isRepresentable none)
          (Glue.nativeMethods c) g.functions := by
  have htypes := ClassModel.typesHave_ofJson hc
  have henclosing := (ClassNames.isMadeFrom_of_ofModel hnames).enclosingInstance
  refine ⟨fun p hp => ?_, fun g hg => ?_⟩
  · obtain ⟨constructors, methods, h⟩ := Proxy.isMadeFrom_of_ofModel hp
    refine ⟨?_, ?_, ?_⟩
    · refine forall₂_of_map_member_eq (map_member_resolveMethods h.resolvedConstructors)
        h.constructors fun r v hr hv => ?_
      rw [← henclosing]
      refine Method.isMethodDescriptor_iff hv.descriptor ?_ (henclosing ▸ htypes.enclosingInstance)
      exact htypes.constructors _ (Config.mem_of_mem_proxiedConstructors hr)
    · refine forall₂_of_map_member_eq (map_member_resolveMethods h.resolvedMethods)
        h.methods fun r v hr hv => ?_
      refine Method.isMethodDescriptor_iff hv.descriptor ?_ nofun
      exact htypes.methods _ (Config.mem_of_mem_proxiedMethods hr)
    · refine forall₂_of_map_member_eq (map_member_resolveFields (config.proxiedFields c))
        h.fields fun r v hr hv => ?_
      refine ClassFile.isFieldDescriptor_iff (JavaType.hasNames_iff.2 ⟨?_, ?_⟩) hv.descriptor
      · exact JavaType.isDescribable_of_descriptor hv.descriptor
      · exact htypes.fields _ (Config.mem_of_mem_proxiedFields hr)
  · have hmem : ∀ m ∈ Glue.nativeMethods c, m ∈ c.methods := fun m => List.mem_of_mem_filter
    have hall := (List.forall₂_and_left _ _).2 ⟨hmem, Glue.forall₂_functions hg⟩
    refine hall.imp fun m f ⟨hm, hf⟩ => ?_
    exact Method.isMethodDescriptor_iff hf.descriptor (htypes.methods m hm) nofun

/-! ### Classes from symbol tables -/

/-- The class that a symbol table describes, with its proxy. -/
def proxyOfTable (text : String) : Except Failure (ClassModel × Proxy) := do
  let c ← ClassModel.ofJson text
  let names ← ClassNames.ofModel c
  let p ← Proxy.ofModel {} names c
  pure (c, p)

theorem exists_of_map_proxyOfTable {α : Type} {f : ClassModel × Proxy → α} {text : String} {a : α}
    (h : f <$> proxyOfTable text = .ok a) :
    ∃ c names p, ClassModel.ofJson text = .ok c ∧ ClassNames.ofModel c = .ok names
      ∧ Proxy.ofModel {} names c = .ok p ∧ f (c, p) = a := by
  obtain ⟨⟨c, p⟩, h, hf⟩ := map_eq_ok_iff.1 h
  obtain ⟨c', hc, h⟩ := bind_eq_ok_iff.1 h
  obtain ⟨names, hnames, h⟩ := bind_eq_ok_iff.1 h
  obtain ⟨p', hp, h⟩ := bind_eq_ok_iff.1 h
  obtain ⟨rfl, rfl⟩ := Prod.mk.inj (Except.ok.inj h)
  exact ⟨c', names, p', hc, hnames, hp, hf⟩

/-- A class `a.B` with a method that has a parameter of one type, and a field of another type. All
records are written as arrays. -/
def tableOf (parameter field : String) : String :=
  "[\"a.B\",null,[],null,[],[[\"f\",\"void\",[\"public\"],[[\"x\",\"" ++ parameter ++ "\"]]]],"
    ++ "[[\"x\",\"" ++ field ++ "\",[\"public\"]]]]"

theorem isDescriptor_iff_isRepresentable_list :
    ∃ c names p, ClassModel.ofJson (tableOf "java.util.List<a.B>[]" "void[][]") = .ok c
      ∧ ClassNames.ofModel c = .ok names ∧ Proxy.ofModel {} names c = .ok p
      ∧ p.methods.map ProxyMethod.descriptor = ["([Ljava/util/List;)V"]
      ∧ (∀ v ∈ p.methods, isMethodDescriptor v.descriptor)
      ∧ ∀ v ∈ p.fields, ¬ isFieldDescriptor v.descriptor := by
  have htable : (fun x : ClassModel × Proxy => (x.2.methods.map ProxyMethod.descriptor,
      (Config.proxiedMethods {} x.1).all (·.isRepresentable none),
      (Config.proxiedFields {} x.1).all fun f => !f.type.isRepresentable))
        <$> proxyOfTable (tableOf "java.util.List<a.B>[]" "void[][]")
      = .ok (["([Ljava/util/List;)V"], true, true) := by decide +kernel
  obtain ⟨c, names, p, hc, hnames, hp, htable⟩ := exists_of_map_proxyOfTable htable
  obtain ⟨hdescriptors, hmethods, hfields⟩ := by simpa only [Prod.mk.injEq] using htable
  obtain ⟨-, hmethod, hfield⟩ := (isDescriptor_iff_isRepresentable hc hnames {}).1 p hp
  refine ⟨c, names, p, hc, hnames, hp, hdescriptors, fun v hv => ?_, fun v hv => ?_⟩
  · obtain ⟨m, hm, hvalid⟩ := exists_of_mem_forall₂ hmethod hv
    exact hvalid.2 (List.all_eq_true.1 hmethods m hm)
  · obtain ⟨f, hf, hvalid⟩ := exists_of_mem_forall₂ hfield hv
    rw [hvalid, Bool.not_eq_true]
    simpa using List.all_eq_true.1 hfields f hf

/-- Types that the virtual machine cannot represent, but that are let through: as those of a
parameter, and `void` as that of a field. -/
def unrepresentedTables : List String :=
  [tableOf "void[][]" "int", tableOf "void" "int", tableOf "a..B" "int", tableOf "int" "void"]

theorem exists_not_isDescriptor : unrepresentedTables.Forall fun text =>
    ∃ c names p, ClassModel.ofJson text = .ok c ∧ ClassNames.ofModel c = .ok names
      ∧ Proxy.ofModel {} names c = .ok p
      ∧ ¬ ((∀ v ∈ p.methods, isMethodDescriptor v.descriptor)
        ∧ ∀ v ∈ p.fields, isFieldDescriptor v.descriptor) := by
  have htables : ∀ text ∈ unrepresentedTables, (fun x : ClassModel × Proxy =>
      x.2.methods.all (isMethodDescriptor ·.descriptor)
        && x.2.fields.all (isFieldDescriptor ·.descriptor)) <$> proxyOfTable text
      = .ok false := by decide +kernel
  rw [List.forall_iff_forall_mem]
  intro text htext
  obtain ⟨c, names, p, hc, hnames, hp, hfalse⟩ := exists_of_map_proxyOfTable (htables text htext)
  refine ⟨c, names, p, hc, hnames, hp, ?_⟩
  rintro ⟨hmethods, hfields⟩
  rw [List.all_eq_true.2 hmethods, List.all_eq_true.2 hfields] at hfalse
  cases hfalse

end JniBindings
