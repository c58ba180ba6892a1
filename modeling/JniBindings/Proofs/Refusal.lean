import JniBindings.Proofs.Glue.Binding
import JniBindings.Proofs.Proxy.Members
/-!
# Refused members

A class is refused for a member that is selected for the output and has a type with no descriptor or
no native type, and for nothing else. The failure can be raised in several steps, each of which has
to say which member is to blame (`Blames`). `refused_iff_offends` puts them together.
-/

namespace JniBindings

/-! ### Steps that blame a member -/

/-- The step fails only for a type that is not supported, and then it blames a member with a text
that has a given property. -/
def Blames {α : Type} (p : String → Prop) (x : Except Failure α) : Prop :=
  ∀ failure, x = .error failure → ∃ member t, failure = .unsupportedType member t ∧ p member

namespace Blames

variable {α β : Type} {p : String → Prop} {x : Except Failure α}

theorem ok (a : α) : Blames p (.ok a) := nofun

theorem bind {f : α → Except Failure β} (hx : Blames p x)
    (hf : ∀ a, x = .ok a → Blames p (f a)) : Blames p (x >>= f) := by
  cases x with
  | ok a => exact hf a rfl
  | error failure =>
    intro failure' h
    obtain rfl : failure = failure' := Except.error.inj h
    exact hx failure rfl

theorem map (f : α → β) (hx : Blames p x) : Blames p (f <$> x) := by
  cases x with
  | ok a => exact ok (f a)
  | error failure => exact hx.bind fun a _ => ok (f a)

theorem mapM {f : α → Except Failure β} {xs : List α} (h : ∀ a ∈ xs, Blames p (f a)) :
    Blames p (xs.mapM f) := by
  induction xs with
  | nil => exact ok []
  | cons a xs ih =>
    obtain ⟨ha, hxs⟩ := List.forall_mem_cons.1 h
    rw [List.mapM_cons]
    exact ha.bind fun b _ => (ih hxs).bind fun bs _ => ok (b :: bs)

/-- A step that blames no member blames the one that it is carried out for. -/
theorem blame {member : String} (h : Blames (fun text => text = "" ∧ p member) x) :
    Blames p (blame member x) := by
  cases x with
  | ok a => exact ok a
  | error failure =>
    obtain ⟨_, t, rfl, rfl, hp⟩ := h failure rfl
    intro failure' h
    exact ⟨member, t, (Except.error.inj h).symm, hp⟩

end Blames

/-! ### Types -/

namespace JavaType

/-- The type cannot be written as a descriptor. -/
def LacksDescriptor (t : JavaType) : Prop := ∃ failure, t.descriptor = .error failure

/-- The type has no descriptor or no native type. -/
def IsUnsupported (t : JavaType) : Prop :=
  t.LacksDescriptor ∨ ∃ failure, t.native = .error failure

variable {t : JavaType} {ts : List JavaType} {q : Prop}

theorem not_lacksDescriptor_iff : ¬ t.LacksDescriptor ↔ t.isDescribable := by
  unfold LacksDescriptor descriptor
  split_ifs with h
  · simp [h]
  · simp [h]

theorem not_isUnsupported {native : NativeType} (hdescribable : t.isDescribable)
    (hnative : t.native = .ok native) : ¬ t.IsUnsupported := by
  rintro (hlacks | ⟨failure, hfailure⟩)
  · exact not_lacksDescriptor_iff.2 hdescribable hlacks
  · rw [hnative] at hfailure
    cases hfailure

theorem blames_descriptor (h : t.LacksDescriptor → q) :
    Blames (fun text => text = "" ∧ q) t.descriptor := by
  intro failure hfailure
  have hq : q := h ⟨failure, hfailure⟩
  rw [descriptor] at hfailure
  split_ifs at hfailure
  exact ⟨"", null, (Except.error.inj hfailure).symm, rfl, hq⟩

theorem blames_listDescriptor (h : ∀ t ∈ ts, t.LacksDescriptor → q) :
    Blames (fun text => text = "" ∧ q) (listDescriptor ts) := by
  intro failure hfailure
  rw [listDescriptor] at hfailure
  split_ifs at hfailure with hall
  obtain ⟨t, ht, hlacks⟩ : ∃ t ∈ ts, ¬ t.isDescribable := by simpa using hall
  rw [← not_lacksDescriptor_iff, not_not] at hlacks
  exact ⟨"", null, (Except.error.inj hfailure).symm, rfl, h t ht hlacks⟩

theorem blames_native (h : t.IsUnsupported → q) :
    Blames (fun text => text = "" ∧ q) t.native := by
  intro failure hfailure
  have hq : q := h (.inr ⟨failure, hfailure⟩)
  unfold native at hfailure
  split at hfailure
  all_goals cases hfailure
  all_goals exact ⟨"", _, rfl, rfl, hq⟩

end JavaType

/-! ### Members -/

namespace Method

/-- The types of the method's parameters and result are not all supported. -/
def Offends (m : Method) : Prop := ∃ t ∈ m.types, t.IsUnsupported

/-- A constructor has parameters that are not supported, or something else that stands in its
descriptor has none. -/
def OffendsAsConstructor (m : Method) (enclosing : Option JavaType) : Prop :=
  (∃ t ∈ m.parameterTypes, t.IsUnsupported)
    ∨ (m.isConstructor ∧ ∃ t ∈ enclosing, t.LacksDescriptor) ∨ m.result.LacksDescriptor

variable {m : Method} {enclosing : Option JavaType} {p : String → Prop}

theorem offendsAsConstructor_of_lacksDescriptor {t : JavaType}
    (ht : t ∈ m.jvmParameters enclosing) (hlacks : t.LacksDescriptor) :
    m.OffendsAsConstructor enclosing := by
  rcases mem_jvmParameters_iff.1 ht with ⟨hm, ht⟩ | ht
  · exact Or.inr (Or.inl ⟨hm, t, ht, hlacks⟩)
  · exact Or.inl ⟨t, ht, Or.inl hlacks⟩

theorem blames_descriptor
    (hparameters : ∀ t ∈ m.jvmParameters enclosing, t.LacksDescriptor → p m.declaration)
    (hresult : m.result.LacksDescriptor → p m.declaration) : Blames p (m.descriptor enclosing) :=
  .blame ((JavaType.blames_listDescriptor hparameters).bind fun _ _ =>
    (JavaType.blames_descriptor hresult).bind fun _ _ => .ok _)

theorem blames_overloadSuffix
    (hparameters : ∀ t ∈ m.jvmParameters enclosing, t.LacksDescriptor → p m.declaration) :
    Blames p (m.overloadSuffix enclosing) :=
  .blame ((JavaType.blames_listDescriptor hparameters).bind fun _ _ => .ok _)

theorem blames_nativeResult (h : m.result.IsUnsupported → p m.declaration) :
    Blames p m.nativeResult :=
  .blame (JavaType.blames_native h)

theorem blames_parameters (h : ∀ t ∈ m.parameterTypes, t.IsUnsupported → p m.declaration) :
    Blames p (NativeParameter.ofMethod m) := by
  refine .blame (.mapM fun q hq => (JavaType.blames_native fun ht => ?_).bind fun _ _ => .ok _)
  exact h q.1.type (List.mem_map_of_mem (List.fst_mem_of_mem_zipIdx hq)) ht

theorem not_offendsAsConstructor {d : String} {ps : List NativeParameter}
    (hdescriptor : m.descriptor enclosing = .ok d)
    (hparameters : NativeParameter.ofMethod m = .ok ps) :
    ¬ m.OffendsAsConstructor enclosing := by
  obtain ⟨hall, hresult⟩ := MethodType.isDescribable_of_descriptor (blame_eq_ok_iff.1 hdescriptor)
  have hdescribable : ∀ t ∈ m.jvmParameters enclosing, t.isDescribable := List.all_eq_true.1 hall
  rintro (⟨t, ht, hunsupported⟩ | ⟨hm, t, ht, hlacks⟩ | hlacks)
  · obtain ⟨native, hnative⟩ :=
      exists_eq_ok_of_mapM (NativeParameter.natives_ofMethod hparameters) ht
    have ht := hdescribable t (mem_jvmParameters_iff.2 (.inr ht))
    exact JavaType.not_isUnsupported ht hnative hunsupported
  · have ht := hdescribable t (mem_jvmParameters_iff.2 (.inl ⟨hm, ht⟩))
    exact JavaType.not_lacksDescriptor_iff.2 ht hlacks
  · exact JavaType.not_lacksDescriptor_iff.2 hresult hlacks

theorem not_offends {d : String} {ps : List NativeParameter} {native : NativeType}
    (hdescriptor : m.descriptor none = .ok d) (hparameters : NativeParameter.ofMethod m = .ok ps)
    (hnative : m.result.native = .ok native) : ¬ m.Offends := by
  have hresult := (MethodType.isDescribable_of_descriptor (blame_eq_ok_iff.1 hdescriptor)).2
  rintro ⟨t, ht, hunsupported⟩
  rcases List.mem_cons.1 ht with rfl | ht
  · exact JavaType.not_isUnsupported hresult hnative hunsupported
  · exact not_offendsAsConstructor hdescriptor hparameters (.inl ⟨t, ht, hunsupported⟩)

theorem declaration_ne_empty (m : Method) : m.declaration ≠ "" := by
  simp [declaration, declarationText]

end Method

/-- Methods are resolved unless one with a parameter that has no descriptor is to blame. -/
theorem blames_resolveMethods {enclosing : Option JavaType} {ms : List Method} {p : String → Prop}
    (h : ∀ m ∈ ms, ∀ t ∈ m.jvmParameters enclosing, t.LacksDescriptor → p m.declaration) :
    Blames p (resolveMethods enclosing ms) := by
  refine .mapM ?_
  rintro ⟨m, i⟩ hm
  show Blames p (resolveMethod enclosing (ms.map Method.name) m i)
  rw [resolveMethod]
  split
  · have hblames := Method.blames_overloadSuffix (h m (mem_of_mem_indexed hm))
    exact .bind (hblames.map _) fun _ _ => .ok _
  · exact .bind (.ok none) fun _ _ => .ok _

/-! ### Parts of the output -/

/-- The text of a field that is refused. -/
def Field.place (f : Field) : String := f.declaringClass ++ "." ++ f.name

section Parts

variable {names : ClassNames} {p : String → Prop} {r : Resolved Method}

theorem ProxyConstructor.blames_ofResolved
    (h : r.member.OffendsAsConstructor names.enclosingInstance → p r.member.declaration) :
    Blames p (ofResolved names r) := by
  refine .bind (Method.blames_parameters fun t ht hunsupported => ?_) fun _ _ =>
    .bind (Method.blames_descriptor (fun t ht hlacks => ?_) fun hlacks => ?_) fun _ _ => .ok _
  · exact h (.inl ⟨t, ht, hunsupported⟩)
  · exact h (Method.offendsAsConstructor_of_lacksDescriptor ht hlacks)
  · exact h (.inr (.inr hlacks))

/-- The steps that a method of a proxy and a native function have in common. -/
theorem Method.Offends.blames {m : Method} (h : m.Offends → p m.declaration) :
    Blames p (m.descriptor none) ∧ Blames p (NativeParameter.ofMethod m)
      ∧ Blames p m.nativeResult := by
  have hparameters : ∀ t ∈ m.parameterTypes, t.IsUnsupported → p m.declaration :=
    fun t ht hunsupported => h ⟨t, List.mem_cons_of_mem _ ht, hunsupported⟩
  have hresult : m.result.IsUnsupported → p m.declaration :=
    fun hunsupported => h ⟨m.result, List.mem_cons_self, hunsupported⟩
  refine ⟨blames_descriptor (fun t ht hlacks => ?_) fun hlacks => hresult (.inl hlacks),
    blames_parameters hparameters, blames_nativeResult hresult⟩
  rw [jvmParameters_none] at ht
  exact hparameters t ht (.inl hlacks)

theorem ProxyMethod.blames_ofResolved (h : r.member.Offends → p r.member.declaration) :
    Blames p (ofResolved names r) := by
  obtain ⟨hdescriptor, hparameters, hnative⟩ := Method.Offends.blames h
  exact hparameters.bind fun _ _ => hnative.bind fun _ _ => hdescriptor.bind fun _ _ => .ok _

theorem ProxyField.blames_ofResolved {r : Resolved Field} {accessors : Bool × Bool}
    (h : r.member.type.IsUnsupported → p r.member.place) : Blames p (ofResolved r accessors) :=
  .bind (.blame (JavaType.blames_native h)) fun _ _ =>
    .bind (.blame (JavaType.blames_descriptor fun hlacks => h (.inl hlacks))) fun _ _ => .ok _

theorem NativeFunction.blames_ofMethod {m : Method} {overloaded : Bool}
    (h : m.Offends → p m.declaration) : Blames p (ofMethod names m overloaded) := by
  obtain ⟨hdescriptor, hparameters, hnative⟩ := Method.Offends.blames h
  refine hdescriptor.bind fun d hd => ?_
  -- the next step does not say whom to blame, but it succeeds where the descriptor has been written
  obtain ⟨parameters, hlist⟩ := m.listDescriptor_of_descriptor hd
  rw [hlist]
  cases overloaded with
  | false | true =>
    exact .bind (.ok _) fun _ _ => hparameters.bind fun _ _ => hnative.bind fun _ _ => .ok _

end Parts

/-! ### Classes -/

/-- The texts of the members for which there is no proxy of a class. -/
inductive Config.Offends (config : Config) (names : ClassNames) (c : ClassModel) : String → Prop
  | constructor (m : Method) : m ∈ config.proxiedConstructors c →
      m.OffendsAsConstructor names.enclosingInstance → Offends config names c m.declaration
  | method (m : Method) : m ∈ config.proxiedMethods c → m.Offends →
      Offends config names c m.declaration
  | field (f : Field) : f ∈ config.proxiedFields c → f.type.IsUnsupported →
      Offends config names c f.place

/-- The texts of the members for which there is no glue of a class. -/
inductive Glue.Offends (c : ClassModel) : String → Prop
  | method (m : Method) : m ∈ nativeMethods c → m.Offends → Offends c m.declaration

section Classes

variable {config : Config} {names : ClassNames} {c : ClassModel} {text : String}

theorem Config.Offends.ne_empty (h : config.Offends names c text) : text ≠ "" := by
  cases h with
  | constructor m | method m => exact m.declaration_ne_empty
  | field f => simp [Field.place]

theorem Glue.Offends.ne_empty (h : Glue.Offends c text) : text ≠ "" := by
  cases h with
  | method m => exact m.declaration_ne_empty

theorem Proxy.blames_ofModel (hc : ∀ m ∈ c.methods, m.isConstructor = false) :
    Blames (config.Offends names c) (ofModel config names c) := by
  refine .bind (blames_resolveMethods fun m hm t ht hlacks => ?_) fun constructors hconstructors =>
    .bind (.mapM fun r hr => ProxyConstructor.blames_ofResolved ?_) fun _ _ =>
    .bind (blames_resolveMethods fun m hm t ht hlacks => ?_) fun methods hmethods =>
    .bind (.mapM fun r hr => ProxyMethod.blames_ofResolved ?_) fun _ _ =>
    .bind (.mapM fun r hr => ProxyField.blames_ofResolved ?_) fun _ _ => .ok _
  · exact .constructor m hm (Method.offendsAsConstructor_of_lacksDescriptor ht hlacks)
  · exact .constructor r.member (mem_of_resolveMethods hconstructors hr)
  · rw [Method.jvmParameters_of_not_isConstructor
      (hc m (Config.mem_of_mem_proxiedMethods hm))] at ht
    exact .method m hm ⟨t, List.mem_cons_of_mem _ ht, .inl hlacks⟩
  · exact .method r.member (mem_of_resolveMethods hmethods hr)
  · refine .field r.member ?_
    rw [← map_member_resolveFields (config.proxiedFields c)]
    exact List.mem_map_of_mem hr

theorem Proxy.not_offends {p : Proxy} (h : ofModel config names c = .ok p) :
    ¬ config.Offends names c text := by
  obtain ⟨constructors, methods, h⟩ := isMadeFrom_of_ofModel h
  intro hoffends
  cases hoffends with
  | constructor m hm hoffends =>
    rw [← map_member_resolveMethods h.resolvedConstructors] at hm
    obtain ⟨r, hr, rfl⟩ := List.mem_map.1 hm
    obtain ⟨v, -, hv⟩ := exists_of_mem_forall₂ h.constructors.flip hr
    exact Method.not_offendsAsConstructor hv.descriptor hv.parameters hoffends
  | method m hm hoffends =>
    rw [← map_member_resolveMethods h.resolvedMethods] at hm
    obtain ⟨r, hr, rfl⟩ := List.mem_map.1 hm
    obtain ⟨v, -, hv⟩ := exists_of_mem_forall₂ h.methods.flip hr
    exact Method.not_offends hv.descriptor hv.parameters hv.native hoffends
  | field f hf hunsupported =>
    rw [← map_member_resolveFields (config.proxiedFields c)] at hf
    obtain ⟨r, hr, rfl⟩ := List.mem_map.1 hf
    obtain ⟨v, -, hv⟩ := exists_of_mem_forall₂ h.fields.flip hr
    have hdescribable := JavaType.isDescribable_of_descriptor hv.descriptor
    exact JavaType.not_isUnsupported hdescribable hv.native hunsupported

theorem Glue.blames_ofModel : Blames (Offends c) (ofModel config names c) :=
  .bind (.mapM fun m hm => NativeFunction.blames_ofMethod (.method m hm)) fun _ _ => .ok _

theorem Glue.not_offends {g : Glue} (h : ofModel config names c = .ok g) : ¬ Offends c text := by
  intro hoffends
  cases hoffends with
  | method m hm hoffends =>
    obtain ⟨f, -, hf⟩ := exists_of_mem_forall₂ (forall₂_functions h).flip hm
    exact Method.not_offends hf.descriptor hf.parameters hf.native hoffends

end Classes

/-! ### Members that are left out -/

/-- Two steps fail in the same way, if one of them does. -/
def FailAlike {α β : Type} (x : Except Failure α) (y : Except Failure β) : Prop :=
  ∀ failure, x = .error failure ↔ y = .error failure

namespace FailAlike

variable {α β γ δ : Type} {x : Except Failure α} {y : Except Failure β}

theorem ok (a : α) (b : β) : FailAlike (.ok a) (.ok b) := fun _ => iff_of_false nofun nofun

theorem error (failure : Failure) :
    FailAlike (.error failure : Except Failure α) (.error failure : Except Failure β) :=
  fun _ => ⟨fun h => congrArg _ (Except.error.inj h), fun h => congrArg _ (Except.error.inj h)⟩

theorem bind {f : α → Except Failure γ} {g : β → Except Failure δ} (h : FailAlike x y)
    (hfg : ∀ a b, FailAlike (f a) (g b)) : FailAlike (x >>= f) (y >>= g) := by
  intro failure
  cases x with
  | ok a =>
    cases y with
    | ok b => exact hfg a b failure
    | error other => exact nomatch (h other).2 rfl
  | error other =>
    obtain rfl := (h other).1 rfl
    exact error other failure

theorem bind_right {f : α → Except Failure γ} {g : α → Except Failure δ}
    (hfg : ∀ a, FailAlike (f a) (g a)) : FailAlike (x >>= f) (x >>= g) := by
  cases x with
  | ok a => exact hfg a
  | error failure => exact error failure

theorem mapM {f : α → Except Failure γ} {g : α → Except Failure δ} {xs : List α}
    (h : ∀ a, FailAlike (f a) (g a)) : FailAlike (xs.mapM f) (xs.mapM g) := by
  induction xs with
  | nil => exact ok [] []
  | cons a xs ih =>
    rw [List.mapM_cons, List.mapM_cons]
    exact (h a).bind fun _ _ => ih.bind fun _ _ => ok _ _

end FailAlike

/-- The accessors of a field do not matter. -/
theorem ProxyField.failAlike_ofResolved (r : Resolved Field) (a b : Bool × Bool) :
    FailAlike (ofResolved r a) (ofResolved r b) :=
  .bind_right fun _ => .bind_right fun _ => .ok _ _

section Selection

variable {config : Config} {names : ClassNames} {c d : ClassModel}

/-- Classes of which the same members are selected for a proxy fail in the same way. -/
theorem Proxy.failAlike_ofModel
    (hconstructors : config.proxiedConstructors c = config.proxiedConstructors d)
    (hmethods : config.proxiedMethods c = config.proxiedMethods d)
    (hfields : config.proxiedFields c = config.proxiedFields d) :
    FailAlike (ofModel config names c) (ofModel config names d) := by
  rw [ofModel, hconstructors, hmethods, hfields]
  exact .bind_right fun _ => .bind_right fun _ => .bind_right fun _ => .bind_right fun _ =>
    .bind (.mapM fun r => ProxyField.failAlike_ofResolved r _ _) fun _ _ => .ok _ _

theorem Glue.failAlike_ofModel (hmethods : nativeMethods c = nativeMethods d) :
    FailAlike (ofModel config names c) (ofModel config names d) := by
  rw [ofModel, hmethods]
  exact .bind_right fun _ => .ok _ _

end Selection

/-! ### What a class is refused for -/

/-- There is a proxy of a class unless a selected member offends, and glue unless a native method
does. The failure is then about a type that is not supported and blames such a member. Members that
are not selected have no part in it: classes with the same selected members fail in the same way. -/
theorem refused_iff_offends (config : Config) (names : ClassNames) (c : ClassModel)
    (hc : ∀ m ∈ c.methods, m.isConstructor = false) :
    ((∃ failure, Proxy.ofModel config names c = .error failure)
        ↔ ∃ text, config.Offends names c text)
      ∧ ((∃ failure, Glue.ofModel config names c = .error failure)
        ↔ ∃ text, Glue.Offends c text)
      ∧ (∀ failure, Proxy.ofModel config names c = .error failure → ∃ text t,
        failure = .unsupportedType text t ∧ text ≠ "" ∧ config.Offends names c text)
      ∧ (∀ failure, Glue.ofModel config names c = .error failure → ∃ text t,
        failure = .unsupportedType text t ∧ text ≠ "" ∧ Glue.Offends c text)
      ∧ (∀ d : ClassModel, config.proxiedConstructors c = config.proxiedConstructors d →
        config.proxiedMethods c = config.proxiedMethods d →
        config.proxiedFields c = config.proxiedFields d →
        FailAlike (Proxy.ofModel config names c) (Proxy.ofModel config names d))
      ∧ ∀ d : ClassModel, Glue.nativeMethods c = Glue.nativeMethods d →
        FailAlike (Glue.ofModel config names c) (Glue.ofModel config names d) := by
  have hproxy : Blames (config.Offends names c) (Proxy.ofModel config names c) :=
    Proxy.blames_ofModel hc
  have hglue : Blames (Glue.Offends c) (Glue.ofModel config names c) := Glue.blames_ofModel
  refine ⟨⟨?_, ?_⟩, ⟨?_, ?_⟩, ?_, ?_, fun d => Proxy.failAlike_ofModel,
    fun d => Glue.failAlike_ofModel⟩
  · rintro ⟨failure, h⟩
    obtain ⟨text, -, -, hoffends⟩ := hproxy failure h
    exact ⟨text, hoffends⟩
  · rintro ⟨text, hoffends⟩
    cases h : Proxy.ofModel config names c with
    | error failure => exact ⟨failure, rfl⟩
    | ok p => exact absurd hoffends (Proxy.not_offends h)
  · rintro ⟨failure, h⟩
    obtain ⟨text, -, -, hoffends⟩ := hglue failure h
    exact ⟨text, hoffends⟩
  · rintro ⟨text, hoffends⟩
    cases h : Glue.ofModel config names c with
    | error failure => exact ⟨failure, rfl⟩
    | ok g => exact absurd hoffends (Glue.not_offends h)
  · intro failure h
    obtain ⟨text, t, hfailure, hoffends⟩ := hproxy failure h
    exact ⟨text, t, hfailure, hoffends.ne_empty, hoffends⟩
  · intro failure h
    obtain ⟨text, t, hfailure, hoffends⟩ := hglue failure h
    exact ⟨text, t, hfailure, hoffends.ne_empty, hoffends⟩

/-- A class with a native method that takes `null`, after other members that are not supported but
are not selected either. -/
def nullClass : ClassModel :=
  let parameter (type : JavaType) : Parameter := ⟨"x", type⟩
  (((((ClassModel.ofName "a.B").withConstructor [parameter .null] (.ofList [])).withField
    { declaringClass := "a.B", name := "x", type := .null, modifiers := .ofList [] }).withMethod
    "f" .null [] (.ofList [])).withMethod "g" .void [parameter (.array .void)] (.ofList [])
    ).withMethod "h" .void [parameter .null] (.ofList [.isPublic, .isNative])

theorem refused_iff_offends_nullClass :
    ∃ names, ClassNames.ofModel nullClass = .ok names
      ∧ (∀ m ∈ nullClass.methods, m.isConstructor = false)
      ∧ Proxy.ofModel {} names nullClass = .error (.unsupportedType "a.B.h(null)" .null)
      ∧ Glue.ofModel {} names nullClass = .error (.unsupportedType "a.B.h(null)" .null)
      ∧ Config.Offends {} names nullClass "a.B.h(null)"
      ∧ Glue.Offends nullClass "a.B.h(null)" := by
  obtain ⟨names, hnames, -⟩ := ClassNames.exists_ofModel (c := nullClass) (by decide) (by decide)
    (by decide)
  have hc : ∀ m ∈ nullClass.methods, m.isConstructor = false := by decide
  have hproxy : Proxy.ofModel {} names nullClass
      = .error (.unsupportedType "a.B.h(null)" .null) := rfl
  have hglue : Glue.ofModel {} names nullClass
      = .error (.unsupportedType "a.B.h(null)" .null) := rfl
  obtain ⟨-, -, hproxies, hglues, -⟩ := refused_iff_offends {} names nullClass hc
  obtain ⟨_, _, heq, -, hoffends⟩ := hproxies _ hproxy
  obtain ⟨_, _, heq', -, hoffends'⟩ := hglues _ hglue
  injection heq with htext
  injection heq' with htext'
  exact ⟨names, hnames, hc, hproxy, hglue, htext ▸ hoffends, htext' ▸ hoffends'⟩

/-- A class with a method declaration that has the name of constructors, but a result that has no
descriptor. -/
def nullResultClass : ClassModel :=
  (ClassModel.ofName "a.B").withDeclaration
    { declaringClass := "a.B", name := constructorName, result := .null, parameters := []
      modifiers := .ofList [.isPublic] }

/-- A class can be refused though it has no methods and no fields, and nothing but constructors
without parameters and without an enclosing instance. -/
theorem exists_refused_for_result :
    ∃ names, ClassNames.ofModel nullResultClass = .ok names
      ∧ names.enclosingInstance = none ∧ nullResultClass.methods = []
      ∧ nullResultClass.fields = []
      ∧ (∀ m ∈ nullResultClass.constructors, m.parameterTypes = [])
      ∧ Proxy.ofModel {} names nullResultClass
        = .error (.unsupportedType "a.B.<init>()" .null) := by
  obtain ⟨names, hnames, hmade⟩ := ClassNames.exists_ofModel (c := nullResultClass) (by decide)
    (by decide) (by decide)
  have henclosing : names.enclosingInstance = none := hmade.enclosingInstance
  refine ⟨names, hnames, henclosing, rfl, rfl, by decide, ?_⟩
  cases names
  subst henclosing
  rfl

end JniBindings
