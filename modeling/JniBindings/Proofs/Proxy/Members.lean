import JniBindings.Proofs.Member
import JniBindings.Proxy.Basic
/-!
# Members of a proxy

`Proxy.isMadeFrom_of_ofModel` says all that a proxy is made from. The members that are offered are
resolved, which keeps them and their order (`map_member_resolveMethods`,
`map_member_resolveFields`), and each becomes one part of the proxy.
-/

namespace JniBindings

/-! ### Resolving -/

theorem map_fst_indexed {α : Type} (name : α → String) (seen : List String) (ms : List α) :
    (indexed name seen ms).map Prod.fst = ms := by
  induction ms generalizing seen with
  | nil => rfl
  | cons m ms ih => rw [indexed, List.map_cons, ih]

theorem mem_of_mem_indexed {α : Type} {name : α → String} {seen : List String} {ms : List α}
    {p : α × Nat} (h : p ∈ indexed name seen ms) : p.1 ∈ ms :=
  map_fst_indexed name seen ms ▸ List.mem_map_of_mem h

theorem member_of_resolveMethod {enclosing : Option JavaType} {names : List String} {m : Method}
    {i : Nat} {r : Resolved Method} (h : resolveMethod enclosing names m i = .ok r) :
    r.member = m := by
  rw [resolveMethod] at h
  split at h
  · obtain ⟨suffix, -, h⟩ := bind_eq_ok_iff.1 h
    exact (congrArg Resolved.member (Except.ok.inj h)).symm
  · exact (congrArg Resolved.member (Except.ok.inj h)).symm

theorem map_member_resolveMethods {enclosing : Option JavaType} {ms : List Method}
    {rs : List (Resolved Method)} (h : resolveMethods enclosing ms = .ok rs) :
    rs.map Resolved.member = ms := by
  rw [← map_fst_indexed Method.name [] ms, eq_comm]
  exact map_eq_map_of_forall₂ (mapM_eq_ok_iff.1 h) fun _ _ hr => (member_of_resolveMethod hr).symm

theorem mem_of_resolveMethods {enclosing : Option JavaType} {ms : List Method}
    {rs : List (Resolved Method)} (h : resolveMethods enclosing ms = .ok rs) {r : Resolved Method}
    (hr : r ∈ rs) : r.member ∈ ms :=
  map_member_resolveMethods h ▸ List.mem_map_of_mem hr

theorem map_member_resolveFields (fs : List Field) :
    (resolveFields fs).map Resolved.member = fs := by
  rw [resolveFields, List.map_map]
  exact map_fst_indexed Field.name [] fs

/-- What holds of the resolved members and the parts made from them holds of the members. -/
theorem forall₂_of_map_member_eq {α β : Type} {R : Resolved α → β → Prop} {S : α → β → Prop}
    {ms : List α} {rs : List (Resolved α)} {vs : List β} (hms : rs.map Resolved.member = ms)
    (h : List.Forall₂ R rs vs) (himp : ∀ r v, r.member ∈ ms → R r v → S r.member v) :
    List.Forall₂ S ms vs := by
  subst hms
  rw [List.forall₂_map_left_iff]
  have hmem : ∀ r ∈ rs, r.member ∈ rs.map Resolved.member := fun r => List.mem_map_of_mem
  exact ((List.forall₂_and_left _ _).2 ⟨hmem, h⟩).imp fun r v hr => himp r v hr.1 hr.2

/-! ### Parts of a proxy -/

/-- What a constructor of a proxy is made from. -/
structure ProxyConstructor.IsMadeFrom (names : ClassNames) (r : Resolved Method)
    (v : ProxyConstructor) : Prop where
  functionName : v.functionName = r.functionName
  slot : v.slot = r.methodSlot
  descriptor : r.member.descriptor names.enclosingInstance = .ok v.descriptor
  signature : v.signature = r.member.signature v.parameters names.simple
  parameters : NativeParameter.ofMethod r.member = .ok v.parameters

theorem ProxyConstructor.isMadeFrom_of_ofResolved {names : ClassNames} {r : Resolved Method}
    {v : ProxyConstructor} (h : ofResolved names r = .ok v) : v.IsMadeFrom names r := by
  obtain ⟨parameters, hparameters, h⟩ := bind_eq_ok_iff.1 h
  obtain ⟨descriptor, hdescriptor, h⟩ := bind_eq_ok_iff.1 h
  have hv := Except.ok.inj h
  subst hv
  exact ⟨rfl, rfl, hdescriptor, rfl, hparameters⟩

/-- What a method of a proxy is made from. -/
structure ProxyMethod.IsMadeFrom (names : ClassNames) (r : Resolved Method) (v : ProxyMethod) :
    Prop where
  functionName : v.functionName = r.functionName
  slot : v.slot = r.methodSlot
  name : v.name = r.member.name
  descriptor : r.member.descriptor none = .ok v.descriptor
  signature : v.signature = r.member.signature v.parameters names.simple
  isStatic : v.isStatic = r.member.isStatic
  result : v.result = r.member.result
  native : r.member.result.native = .ok v.native
  parameters : NativeParameter.ofMethod r.member = .ok v.parameters

theorem ProxyMethod.isMadeFrom_of_ofResolved {names : ClassNames} {r : Resolved Method}
    {v : ProxyMethod} (h : ofResolved names r = .ok v) : v.IsMadeFrom names r := by
  obtain ⟨parameters, hparameters, h⟩ := bind_eq_ok_iff.1 h
  obtain ⟨native, hnative, h⟩ := bind_eq_ok_iff.1 h
  obtain ⟨descriptor, hdescriptor, h⟩ := bind_eq_ok_iff.1 h
  have hv := Except.ok.inj h
  subst hv
  exact ⟨rfl, rfl, rfl, hdescriptor, rfl, rfl, rfl, blame_eq_ok_iff.1 hnative, hparameters⟩

/-- What a field of a proxy is made from. -/
structure ProxyField.IsMadeFrom (accessors : Bool × Bool) (r : Resolved Field) (v : ProxyField) :
    Prop where
  name : v.name = r.member.name
  slot : v.slot = r.fieldSlot
  descriptor : r.member.type.descriptor = .ok v.descriptor
  signature : v.signature = r.member.signature
  isStatic : v.isStatic = r.member.isStatic
  type : v.type = r.member.type
  native : r.member.type.native = .ok v.native
  getter : v.getter = if accessors.1 then some ("get" ++ identifier r.member.name) else none
  setter : v.setter = if accessors.2 then some ("set" ++ identifier r.member.name) else none
  setterParameter : v.setterParameter = NativeParameter.nameAt r.member.name 0

theorem ProxyField.isMadeFrom_of_ofResolved {accessors : Bool × Bool} {r : Resolved Field}
    {v : ProxyField} (h : ofResolved r accessors = .ok v) : v.IsMadeFrom accessors r := by
  obtain ⟨native, hnative, h⟩ := bind_eq_ok_iff.1 h
  obtain ⟨descriptor, hdescriptor, h⟩ := bind_eq_ok_iff.1 h
  have hv := Except.ok.inj h
  subst hv
  refine ⟨?_, ?_, blame_eq_ok_iff.1 hdescriptor, ?_, ?_, ?_, blame_eq_ok_iff.1 hnative, ?_, ?_, ?_⟩
  -- nothing has to be unfolded, and unfolding the names would not come to an end
  all_goals with_reducible rfl

theorem Config.mem_of_mem_proxiedConstructors {config : Config} {c : ClassModel} {m : Method}
    (h : m ∈ config.proxiedConstructors c) : m ∈ c.constructors := by
  rw [proxiedConstructors] at h
  split at h
  · cases h
  · exact List.mem_of_mem_filter h

theorem Config.mem_of_mem_proxiedMethods {config : Config} {c : ClassModel} {m : Method}
    (h : m ∈ config.proxiedMethods c) : m ∈ c.methods :=
  List.mem_of_mem_filter h

theorem Config.mem_of_mem_proxiedFields {config : Config} {c : ClassModel} {f : Field}
    (h : f ∈ config.proxiedFields c) : f ∈ c.fields :=
  List.mem_of_mem_filter (List.mem_of_mem_filter h)

namespace Proxy

/-- What a proxy is made from, given the constructors and methods that have been resolved. -/
structure IsMadeFrom (config : Config) (names : ClassNames) (c : ClassModel)
    (constructors methods : List (Resolved Method)) (p : Proxy) : Prop where
  resolvedConstructors :
    resolveMethods names.enclosingInstance (config.proxiedConstructors c) = .ok constructors
  resolvedMethods :
    resolveMethods names.enclosingInstance (config.proxiedMethods c) = .ok methods
  constructors : List.Forall₂ (ProxyConstructor.IsMadeFrom names) constructors p.constructors
  methods : List.Forall₂ (ProxyMethod.IsMadeFrom names) methods p.methods
  fields : List.Forall₂ (fun r v => v.IsMadeFrom (config.accessors c r.member) r)
    (resolveFields (config.proxiedFields c)) p.fields
  headerName : p.headerName = config.namespacePath.fileStart ++ names.proxy ++ ".h"
  sourceName : p.sourceName = config.namespacePath.fileStart ++ names.proxy ++ ".cpp"
  names : p.names = names
  config : p.config = config

/-- The steps in which a proxy is collected. -/
theorem collected_of_ofModel {config : Config} {names : ClassNames} {c : ClassModel} {p : Proxy}
    (h : ofModel config names c = .ok p) :
    ∃ constructors methods, p.IsMadeFrom config names c constructors methods
      ∧ constructors.mapM (ProxyConstructor.ofResolved names) = .ok p.constructors
      ∧ methods.mapM (ProxyMethod.ofResolved names) = .ok p.methods := by
  obtain ⟨rcs, hrcs, h⟩ := bind_eq_ok_iff.1 h
  obtain ⟨cs, hcs, h⟩ := bind_eq_ok_iff.1 h
  obtain ⟨rms, hrms, h⟩ := bind_eq_ok_iff.1 h
  obtain ⟨ms, hms, h⟩ := bind_eq_ok_iff.1 h
  obtain ⟨fs, hfs, h⟩ := bind_eq_ok_iff.1 h
  have hp := Except.ok.inj h
  subst hp
  refine ⟨rcs, rms, ⟨hrcs, hrms, ?_, ?_, ?_, rfl, rfl, rfl, rfl⟩, hcs, hms⟩
  · exact (mapM_eq_ok_iff.1 hcs).imp fun _ _ => ProxyConstructor.isMadeFrom_of_ofResolved
  · exact (mapM_eq_ok_iff.1 hms).imp fun _ _ => ProxyMethod.isMadeFrom_of_ofResolved
  · exact (mapM_eq_ok_iff.1 hfs).imp fun _ _ => ProxyField.isMadeFrom_of_ofResolved

theorem isMadeFrom_of_ofModel {config : Config} {names : ClassNames} {c : ClassModel} {p : Proxy}
    (h : ofModel config names c = .ok p) :
    ∃ constructors methods, p.IsMadeFrom config names c constructors methods := by
  obtain ⟨constructors, methods, hmade, -, -⟩ := collected_of_ofModel h
  exact ⟨constructors, methods, hmade⟩

end Proxy

end JniBindings
