import JniBindings.Proofs.ClassNames
import JniBindings.Proofs.Proxy.NamesApart
import JniBindings.Proxy.Forwarding
/-!
# Functions of a proxy

The functions of a proxy are told apart by their names and by the types of their parameters. No two
of them are alike if the members of the class are apart (`Proxy.nodup_functionKeys`); for each part
of this condition there is a class whose functions clash without it
(`Proxy.exists_not_nodup_functionKeys`).
-/

namespace JniBindings

namespace Proxy

variable {config : Config} {names : ClassNames} {c : ClassModel} {p : Proxy}
  {constructors methods : List (Resolved Method)}

theorem name_forwardingKey (style : Style) (f : Forwarding) :
    (forwardingKey style f).name = f.name := rfl

theorem nodup_map_forwardingKey {style : Style} {fs : List Forwarding}
    (h : (fs.map Forwarding.name).Nodup) : (fs.map (forwardingKey style)).Nodup := by
  apply List.Nodup.of_map FunctionKey.name
  rw [List.map_map]
  exact h

/-- What is known of the names of the functions that every proxy has. -/
theorem fixedFunctions_spec {style : Style} {k : FunctionKey} (hk : k ∈ fixedFunctions style) :
    k.name ∈ proxyNames ∧ '_' ∉ k.name.toList ∧ k.name.toList.head? ≠ some 'n'
      ∧ k.name.toList.head? ≠ some 's' ∧ (k.name.toList.head? = some 'g' →
        k.parameters = [] ∧ (k.name = "getThis" ∨ k.name = "getClassInitState")) := by
  revert k
  cases style <;> decide

theorem length_enclosingParameters (names : ClassNames) :
    (enclosingParameters names).length = names.enclosingInstance.toList.length := by
  rw [enclosingParameters, ClassNames.isInner]
  cases names.enclosingInstance <;> rfl

theorem length_parameters_forwardingKey (style : Style) (f : Forwarding) :
    (forwardingKey style f).parameters.length
      = (implicitParameters style f.isStatic).length + f.parameters.length := by
  rw [forwardingKey, List.length_map, declaredParameters, List.length_append, List.length_map]

theorem length_parameters_ofMethod {m : Method} {ps : List NativeParameter}
    (h : NativeParameter.ofMethod m = .ok ps) : ps.length = m.parameterTypes.length := by
  rw [← NativeParameter.types_ofMethod h, List.length_map]

section Made

variable (h : p.IsMadeFrom config names c constructors methods)
include h

theorem map_name_constructorForwardings (style : Style) :
    (p.constructors.map (constructorForwarding style names)).map Forwarding.name
      = constructors.map Resolved.functionName := by
  rw [List.map_map, eq_comm]
  exact map_eq_map_of_forall₂ h.constructors fun r v hv => hv.functionName.symm

theorem map_name_methodForwardings (style : Style) :
    (p.methods.map (methodForwarding style)).map Forwarding.name
      = methods.map Resolved.functionName := by
  rw [List.map_map, eq_comm]
  exact map_eq_map_of_forall₂ h.methods fun r v hv => hv.functionName.symm

/-- The functions that read and write fields are the accessors. -/
theorem map_name_fieldForwardings (style : Style) :
    (p.fields.flatMap (fieldForwardings style)).map Forwarding.name
      = ((config.proxiedFields c).flatMap (config.accessorNames c)).map identifier := by
  have hfield (r : Resolved Field) (v : ProxyField)
      (hv : v.IsMadeFrom (config.accessors c r.member) r) :
      (config.accessorNames c r.member).map identifier
        = (fieldForwardings style v).map Forwarding.name := by
    have happend (s : String) (hs : identifier s = s) :
        identifier (s ++ r.member.name) = s ++ identifier r.member.name := by
      rw [identifier_append, hs]
    rw [Config.accessorNames, fieldForwardings, hv.getter, hv.setter]
    split_ifs <;> simp [getterForwarding, setterForwarding, happend "get" (by decide),
      happend "set" (by decide)]
  have hfields := map_eq_map_of_forall₂ h.fields hfield
  rw [List.map_flatMap, List.map_flatMap, List.flatMap_def, List.flatMap_def, ← hfields,
    ← map_member_resolveFields (config.proxiedFields c), List.map_map, map_member_resolveFields]
  rfl

theorem exists_constructor_of_mem {style : Style} {f : Forwarding}
    (hf : f ∈ p.constructors.map (constructorForwarding style names)) :
    ∃ r ∈ constructors, f.name = r.functionName :=
  exists_of_mem_of_map_eq (map_name_constructorForwardings h style) hf

theorem exists_method_of_mem {style : Style} {f : Forwarding}
    (hf : f ∈ p.methods.map (methodForwarding style)) :
    ∃ r ∈ methods, f.name = r.functionName :=
  exists_of_mem_of_map_eq (map_name_methodForwardings h style) hf

theorem exists_accessor_of_mem {style : Style} {f : Forwarding}
    (hf : f ∈ p.fields.flatMap (fieldForwardings style)) :
    ∃ g ∈ config.proxiedFields c, ∃ a ∈ config.accessorNames c g, f.name = identifier a := by
  obtain ⟨a, ha, hname⟩ := exists_of_mem_of_map_eq (map_name_fieldForwardings h style) hf
  obtain ⟨g, hg, ha⟩ := List.mem_flatMap.1 ha
  exact ⟨g, hg, a, ha, hname⟩

variable (hnames : names.enclosingInstance = c.enclosingInstance) (hapart : config.NamesApart c)
include hnames hapart

/-- The functions of a constructor and of a method differ. -/
theorem key_constructor_ne_key_method {v : ProxyConstructor} {w : ProxyMethod}
    (hv : v ∈ p.constructors) (hw : w ∈ p.methods) :
    forwardingKey config.style (constructorForwarding config.style names v)
      ≠ forwardingKey config.style (methodForwarding config.style w) := by
  intro hkeys
  obtain ⟨q, hq, hqv⟩ := exists_of_mem_forall₂ h.constructors hv
  obtain ⟨r, hr, hrw⟩ := exists_of_mem_forall₂ h.methods hw
  have hname : q.functionName = r.functionName := by
    rw [← hqv.functionName, ← hrw.functionName]
    exact congrArg FunctionKey.name hkeys
  obtain ⟨hqs, hrm, hrn, htypes⟩ := Config.of_constructorName_eq_methodName hapart
    (hnames ▸ h.resolvedConstructors) (hnames ▸ h.resolvedMethods) hq hr hname
  have hqm := hapart.isConstructor _ (List.mem_filter.1 hqs).1
  have hstatic : ¬ (r.member.isStatic ∨ config.useJniHelper) := fun hstatic =>
    hapart.factories _ hqs _ hrm hrn hstatic htypes
  obtain ⟨hinstance, hraw⟩ := not_or.1 hstatic
  have hstyle : config.style = .raw := if_neg hraw
  -- the method passes on its instance and has one parameter more
  have hlength := congrArg (fun k : FunctionKey => k.parameters.length) hkeys
  simp only [length_parameters_forwardingKey, constructorForwarding, methodForwarding,
    List.length_append, length_enclosingParameters, length_parameters_ofMethod hqv.parameters,
    length_parameters_ofMethod hrw.parameters, htypes, hrw.isStatic, hstyle, hnames,
    Method.jvmParameters_of_isConstructor hqm] at hlength
  rw [implicitParameters, implicitParameters, if_pos rfl, if_neg hinstance] at hlength
  simp only [List.length_cons, List.length_nil] at hlength
  omega

/-- Neither a constructor nor a method is called like a function that reads or writes a field. -/
theorem name_ne_name_accessor {style : Style} {f g : Forwarding}
    (hf : f ∈ p.constructors.map (constructorForwarding style names)
      ∨ f ∈ p.methods.map (methodForwarding style))
    (hg : g ∈ p.fields.flatMap (fieldForwardings style)) : f.name ≠ g.name := by
  intro hname
  obtain ⟨field, hfield, a, ha, hga⟩ := exists_accessor_of_mem h hg
  rcases hf with hf | hf
  · obtain ⟨r, hr, hfr⟩ := exists_constructor_of_mem h hf
    have hn := Config.head?_constructorName hapart (hnames ▸ h.resolvedConstructors) hr
    rw [← hfr, hname, hga] at hn
    rcases Config.head?_identifier_accessorName ha with hget | hset
    · rw [hget] at hn
      exact absurd hn (by decide)
    · rw [hset] at hn
      exact absurd hn (by decide)
  · obtain ⟨r, hr, hfr⟩ := exists_method_of_mem h hf
    exact Config.methodName_ne_accessorName hapart (hnames ▸ h.resolvedMethods) hr hfield ha
      (hfr.symm.trans (hname.trans hga))

/-- A function that forwards to Java is none that every proxy has. -/
theorem key_not_mem_fixedFunctions {f : Forwarding} (hf : f ∈ p.forwardings) :
    forwardingKey config.style f ∉ fixedFunctions config.style := by
  intro hk
  obtain ⟨hproxy, hunderscore, hn, hs, hg⟩ := fixedFunctions_spec hk
  rw [name_forwardingKey] at hproxy hunderscore hn hs hg
  rw [forwardings, h.names, List.mem_append, List.mem_append] at hf
  rcases hf with (hf | hf) | hf
  · obtain ⟨r, hr, hname⟩ := exists_constructor_of_mem h hf
    rw [hname] at hn
    exact hn (Config.head?_constructorName hapart (hnames ▸ h.resolvedConstructors) hr)
  · obtain ⟨r, hr, hname⟩ := exists_method_of_mem h hf
    exact Config.functionName_ne_of_mem_proxyNames hapart (hnames ▸ h.resolvedMethods) hr hproxy
      hunderscore hname.symm
  · obtain ⟨g, hgmem, a, ha, hname⟩ := exists_accessor_of_mem h hf
    have haf := eq_of_identifier_eq hunderscore hname.symm
    rw [hname] at hs hg
    obtain ⟨hempty, hgetter⟩ :=
      hg ((Config.head?_identifier_accessorName ha).resolve_right hs)
    by_cases hhelper : config.useJniHelper
    · obtain ⟨hthis, hstate⟩ := hapart.getters hhelper g hgmem
      rw [← hname, ← haf] at hgetter
      rcases hgetter with rfl | rfl
      · exact hthis ha
      · exact hstate ha
    · -- in raw style the environment is passed to every function
      have hstyle : config.style = .raw := if_neg hhelper
      have hlength := length_parameters_forwardingKey config.style f
      rw [hempty, hstyle, implicitParameters, List.length_nil, List.length_cons] at hlength
      omega

/-- The functions that forward to Java differ. -/
theorem nodup_map_forwardings (hdistinct : c.HasDistinctMembers) :
    (p.forwardings.map (forwardingKey config.style)).Nodup := by
  have hconstructors : ((p.constructors.map (constructorForwarding config.style names)).map
      (forwardingKey config.style)).Nodup := by
    apply nodup_map_forwardingKey
    rw [map_name_constructorForwardings h]
    exact Config.nodup_constructorNames hapart hdistinct (hnames ▸ h.resolvedConstructors)
  have hmethods : ((p.methods.map (methodForwarding config.style)).map
      (forwardingKey config.style)).Nodup := by
    apply nodup_map_forwardingKey
    rw [map_name_methodForwardings h]
    exact Config.nodup_methodNames hapart hdistinct (hnames ▸ h.resolvedMethods)
  have hfields : ((p.fields.flatMap (fieldForwardings config.style)).map
      (forwardingKey config.style)).Nodup := by
    apply nodup_map_forwardingKey
    rw [map_name_fieldForwardings h]
    refine List.Nodup.map_on (fun a ha b hb => ?_) (Config.nodup_accessorNames hdistinct.fields)
    exact hapart.identifiers a (List.mem_append_right _ ha) b (List.mem_append_right _ hb)
  rw [forwardings, h.config, h.names, List.map_append, List.map_append, List.nodup_append,
    List.nodup_append]
  refine ⟨⟨hconstructors, hmethods, ?_⟩, hfields, ?_⟩
  · intro a ha b hb
    obtain ⟨f, hf, rfl⟩ := List.mem_map.1 ha
    obtain ⟨g, hg, rfl⟩ := List.mem_map.1 hb
    obtain ⟨v, hv, rfl⟩ := List.mem_map.1 hf
    obtain ⟨w, hw, rfl⟩ := List.mem_map.1 hg
    exact key_constructor_ne_key_method h hnames hapart hv hw
  · intro a ha b hb hkeys
    rw [← List.map_append] at ha
    obtain ⟨f, hf, rfl⟩ := List.mem_map.1 ha
    obtain ⟨g, hg, rfl⟩ := List.mem_map.1 hb
    exact name_ne_name_accessor h hnames hapart (List.mem_append.1 hf) hg
      (congrArg FunctionKey.name hkeys)

end Made

/-- No two functions of a proxy have the same name and the same parameter types, if what the class
offers can be told apart and is named apart. -/
theorem nodup_functionKeys (hnames : ClassNames.ofModel c = .ok names)
    (hp : ofModel config names c = .ok p) (hdistinct : c.HasDistinctMembers)
    (hapart : config.NamesApart c) : p.functionKeys.Nodup := by
  obtain ⟨constructors, methods, h⟩ := isMadeFrom_of_ofModel hp
  have henclosing := (ClassNames.isMadeFrom_of_ofModel hnames).enclosingInstance
  have hfixed : (fixedFunctions config.style).Nodup := by
    cases config.style <;> decide
  rw [functionKeys, h.config, List.nodup_append]
  refine ⟨nodup_map_forwardings h henclosing hapart hdistinct, hfixed, ?_⟩
  intro a ha k hk hak
  obtain ⟨f, hf, rfl⟩ := List.mem_map.1 ha
  exact key_not_mem_fixedFunctions h henclosing hapart hf (hak ▸ hk)

/-! ### Classes whose names are apart and others -/

/-- The proxy of a class, if there is one. -/
def ofModel? (config : Config) (c : ClassModel) : Option Proxy :=
  (ClassNames.ofModel c >>= fun names => ofModel config names c).toOption

theorem exists_of_map_ofModel? {α : Type} {g : Proxy → α} {a : α}
    (h : (ofModel? config c).map g = some a) :
    ∃ names p, ClassNames.ofModel c = .ok names ∧ ofModel config names c = .ok p ∧ g p = a := by
  obtain ⟨p, hp, hg⟩ := Option.map_eq_some_iff.1 h
  have hok : (ClassNames.ofModel c >>= fun names => ofModel config names c) = .ok p := by
    rw [ofModel?] at hp
    cases hresult : ClassNames.ofModel c >>= fun names => ofModel config names c with
    | error failure => rw [hresult] at hp; cases hp
    | ok p' => rw [hresult] at hp; rw [Option.some.inj hp]
  obtain ⟨names, hnames, hofModel⟩ := bind_eq_ok_iff.1 hok
  exact ⟨names, p, hnames, hofModel, hg⟩

/-- A public method of a class `a.B`, static or not. -/
def methodOf (name : String) (types : List JavaType) (isStatic : Bool := false) : Method :=
  { declaringClass := "a.B", name, result := .void
    parameters := types.map fun type => ⟨"x", type⟩
    modifiers := .ofList (.isPublic :: if isStatic then [.isStatic] else []) }

/-- A public field of a class `a.B`, with its annotations. -/
def fieldOf (name : String) (annotations : List Annotation := []) : Field :=
  { declaringClass := "a.B", name, type := .primitive .int, modifiers := .ofList [.isPublic]
    annotations }

/-- A class `a.B` with given members. -/
def classOf (constructors methods : List Method) (fields : List Field) : ClassModel :=
  { ClassModel.ofName "a.B" with constructors, methods, fields }

/-- An inner class with overloaded constructors and methods, a method with a reserved name, one that
is called like the factory and takes what a constructor takes, and a name that is no identifier. -/
def overloadedClass : ClassModel :=
  (classOf [methodOf constructorName [], methodOf constructorName [.array (.primitive .int)]]
    [methodOf "f$" [.primitive .int], methodOf "f$" [.string], methodOf "f_" [],
      methodOf "delete" [], methodOf "newInstance" [.declared "a.C", .array (.primitive .int)]]
    [fieldOf "size", fieldOf "f$" [.fieldAccessors true false]]).withEnclosingInstance
      (.declared "a.C")

theorem namesApart_overloadedClass : Config.NamesApart {} overloadedClass where
  isConstructor := by decide +kernel
  not_isConstructor := by decide +kernel
  types := by
    have htypes : (Config.proxiedConstructors {} overloadedClass
        ++ Config.proxiedMethods {} overloadedClass).flatMap
          (·.jvmParameters overloadedClass.enclosingInstance)
        = [.declared "a.C", .declared "a.C", .array (.primitive .int), .primitive .int, .string,
          .declared "a.C", .array (.primitive .int)] := by decide +kernel
    have hC : IsDeclaredName "a.C" :=
      ⟨⟨by simp [Text.splitOn, Text.StartsWith], by simp⟩, by simp, by simp⟩
    have hstring : IsDeclaredName "java.lang.String" :=
      ⟨⟨by simp [Text.splitOn, Text.StartsWith], by simp⟩, by simp, by simp⟩
    have hall : ∀ t ∈ [JavaType.declared "a.C", .declared "a.C", .array (.primitive .int),
        .primitive .int, .string, .declared "a.C", .array (.primitive .int)],
        t.NamesHave IsDeclaredName := by
      simp [JavaType.NamesHave, JavaType.string, hC, hstring]
    rw [← htypes] at hall
    exact fun m hm t ht => hall t (List.mem_flatMap_of_mem hm ht)
  identifiers := by decide +kernel
  requests := by decide +kernel
  suffixes := by decide +kernel
  factories := by decide +kernel
  getters := by decide +kernel

theorem nodup_functionKeys_overloadedClass :
    overloadedClass.HasDistinctMembers ∧ Config.NamesApart {} overloadedClass
      ∧ ∃ names p, ClassNames.ofModel overloadedClass = .ok names
        ∧ ofModel {} names overloadedClass = .ok p ∧ p.functionKeys.Nodup
        ∧ p.forwardings.map Forwarding.name = ["newInstance__La_C_2", "newInstance__La_C_2_0005bI",
          "f_00024__I", "f_00024__Ljava_lang_String_2", "f_", "delete__",
          "newInstance__La_C_2_0005bI", "getsize", "setsize", "getf_00024"] := by
  have hdistinct : overloadedClass.HasDistinctMembers := by decide +kernel
  have hproxy : (ofModel? {} overloadedClass).map (·.forwardings.map Forwarding.name)
      = some ["newInstance__La_C_2", "newInstance__La_C_2_0005bI",
          "f_00024__I", "f_00024__Ljava_lang_String_2", "f_", "delete__",
          "newInstance__La_C_2_0005bI", "getsize", "setsize", "getf_00024"] := by decide +kernel
  obtain ⟨names, p, hnames, hp, hforwardings⟩ := exists_of_map_ofModel? hproxy
  exact ⟨hdistinct, namesApart_overloadedClass, names, p, hnames, hp,
    nodup_functionKeys hnames hp hdistinct namesApart_overloadedClass, hforwardings⟩

/-- Classes whose members can be told apart, but not the functions made from them. -/
def clashingClasses : List (Config × ClassModel) := [
  -- two names become the same identifier
  ({}, classOf [] [methodOf "a$" [], methodOf "a_00024" []] []),
  -- a name is that of an overloaded function with its suffix
  ({}, classOf []
    [methodOf "f" [.primitive .int], methodOf "f" [], methodOf "f__I" [.primitive .int]] []),
  -- an annotation asks for an accessor that there is already
  ({}, classOf [] [methodOf "getx" []] [fieldOf "x" [.fieldAccessors true false]]),
  -- the name of a class holds a segment that begins with a digit
  ({}, classOf [] [methodOf "f" [.declared "a.1b"], methodOf "f" [.declared "a_b"]] []),
  -- a method has the name of constructors, or a constructor has not
  ({}, classOf [methodOf constructorName []] [methodOf constructorName [] true] []),
  ({}, classOf [methodOf "f" []] [methodOf "f" [] true] []),
  -- a static method is called like the factory and takes what an overloaded constructor takes
  ({}, classOf [methodOf constructorName [], methodOf constructorName [.primitive .int]]
    [methodOf factoryName [.primitive .int] true] []),
  -- a getter is called like a function that every proxy has
  ({ useJniHelper := true }, classOf [] [] [fieldOf "This"]),
  ({ useJniHelper := true }, classOf [] [] [fieldOf "ClassInitState"])]

theorem exists_not_nodup_functionKeys : clashingClasses.Forall fun s => s.2.HasDistinctMembers
    ∧ ∃ names p, ClassNames.ofModel s.2 = .ok names ∧ ofModel s.1 names s.2 = .ok p
      ∧ ¬ p.functionKeys.Nodup := by
  rw [List.forall_iff_forall_mem]
  have hclash : ∀ s ∈ clashingClasses, s.2.HasDistinctMembers
      ∧ (ofModel? s.1 s.2).map (fun p => decide p.functionKeys.Nodup) = some false := by
    decide +kernel
  intro s hs
  obtain ⟨hdistinct, hproxy⟩ := hclash s hs
  obtain ⟨names, p, hnames, hp, hkeys⟩ := exists_of_map_ofModel? hproxy
  exact ⟨hdistinct, names, p, hnames, hp, of_decide_eq_false hkeys⟩

end Proxy

end JniBindings
