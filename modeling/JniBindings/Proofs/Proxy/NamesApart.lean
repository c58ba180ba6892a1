import JniBindings.Proofs.Overload
/-!
# Members whose functions have names of their own

`Config.NamesApart` says when the names of the members that a proxy offers are apart from each
other: as identifiers, as accessors and as overloaded functions. Then functions of constructors, of
methods and of accessors all have different names, except that a method may be called like the
factory (`Config.of_constructorName_eq_methodName`).
-/

namespace JniBindings

namespace Config

variable (config : Config) (c : ClassModel)

/-- The names of a field's accessors, as Java would have them. -/
def accessorNames (f : Field) : List String :=
  (if (config.accessors c f).1 then ["get" ++ f.name] else [])
    ++ if (config.accessors c f).2 then ["set" ++ f.name] else []

/-- The names of all methods and accessors of a proxy, as Java would have them. -/
def javaNames : List String :=
  (config.proxiedMethods c).map Method.name ++ (config.proxiedFields c).flatMap
    (config.accessorNames c)

/-- The names of what a proxy offers are apart: they stay apart as identifiers, no annotation asks
for an accessor that there is already, and no name is that of an overloaded function with its
suffix. -/
structure NamesApart : Prop where
  isConstructor : ∀ m ∈ config.proxiedConstructors c, m.isConstructor
  not_isConstructor : ∀ m ∈ config.proxiedMethods c, m.isConstructor = false
  types : ∀ m ∈ config.proxiedConstructors c ++ config.proxiedMethods c,
    ∀ t ∈ m.jvmParameters c.enclosingInstance, t.NamesHave IsDeclaredName
  identifiers : ∀ a ∈ config.javaNames c, ∀ b ∈ config.javaNames c,
    identifier a = identifier b → a = b
  requests : ∀ f ∈ config.proxiedFields c, f.accessorRequest?.isSome →
    ∀ a ∈ config.accessorNames c f, a ∉ (unsuffixed (config.proxiedMethods c)).map Method.name
  suffixes : ∀ m ∈ suffixed (config.proxiedConstructors c) ++ suffixed (config.proxiedMethods c),
    ∀ a ∈ (unsuffixed (config.proxiedMethods c)).map Method.name
      ++ (config.proxiedFields c).flatMap (config.accessorNames c),
    m.overloadName c.enclosingInstance ≠ .ok (identifier a)
  factories : ∀ k ∈ suffixed (config.proxiedConstructors c), ∀ m ∈ config.proxiedMethods c,
    m.name = factoryName → m.isStatic ∨ config.useJniHelper →
    m.parameterTypes ≠ k.jvmParameters c.enclosingInstance
  getters : config.useJniHelper → ∀ f ∈ config.proxiedFields c,
    "getThis" ∉ config.accessorNames c f ∧ "getClassInitState" ∉ config.accessorNames c f

variable {config c} {f : Field} {a : String}

theorem mem_accessorNames : a ∈ config.accessorNames c f
    ↔ (config.accessors c f).1 ∧ a = "get" ++ f.name
      ∨ (config.accessors c f).2 ∧ a = "set" ++ f.name := by
  rw [accessorNames, List.mem_append]
  refine or_congr ?_ ?_
  · by_cases hg : (config.accessors c f).1 <;> simp [hg]
  · by_cases hs : (config.accessors c f).2 <;> simp [hs]

theorem head?_identifier_accessorName (ha : a ∈ config.accessorNames c f) :
    (identifier a).toList.head? = some 'g' ∨ (identifier a).toList.head? = some 's' := by
  rcases mem_accessorNames.1 ha with ⟨-, rfl⟩ | ⟨-, rfl⟩
  · left
    rw [identifier_append, String.toList_append]
    rfl
  · right
    rw [identifier_append, String.toList_append]
    rfl

/-- No accessor is added that the class has as a method. -/
theorem hasMethod_eq_false_of_mem_accessorNames (hf : f.accessorRequest? = none)
    (ha : a ∈ config.accessorNames c f) : c.hasMethod a = false := by
  have haccessors : config.accessors c f
      = if config.addsAccessors f then (!c.hasGetter f, !c.hasSetter f && !f.isFinal)
        else (false, false) := by
    rw [accessors, hf]
    by_cases hadds : config.addsAccessors f <;> simp [hadds]
  rw [mem_accessorNames, haccessors] at ha
  split_ifs at ha
  · rcases ha with ⟨hget, rfl⟩ | ⟨hset, rfl⟩
    · simp only [Bool.not_eq_true', ClassModel.hasGetter, Bool.or_eq_false_iff] at hget
      exact hget.1.2
    · simp only [Bool.and_eq_true, Bool.not_eq_true', ClassModel.hasSetter,
        Bool.or_eq_false_iff] at hset
      exact hset.1.2
  · simp at ha

/-- The accessors of different fields have different names. -/
theorem nodup_accessorNames (h : (c.fields.map Field.name).Nodup) :
    ((config.proxiedFields c).flatMap (config.accessorNames c)).Nodup := by
  have hsub : (config.proxiedFields c).Sublist c.fields :=
    List.filter_sublist.trans List.filter_sublist
  have hnames : ((config.proxiedFields c).map Field.name).Nodup := h.sublist (hsub.map _)
  have happend (s : String) {x y : String} (hxy : s ++ x = s ++ y) : x = y := by
    rw [← String.toList_inj] at hxy ⊢
    simpa using hxy
  have hgetset (x y : String) : "get" ++ x ≠ "set" ++ y := by
    intro hxy
    rw [← String.toList_inj] at hxy
    simp at hxy
  refine List.nodup_flatMap.2 ⟨fun f _ => ?_, ?_⟩
  · rw [accessorNames]
    split_ifs <;> simp [hgetset]
  · refine (List.pairwise_map.1 hnames).imp fun {f g} hfg => ?_
    intro a ha hb
    rcases mem_accessorNames.1 ha with ⟨-, rfl⟩ | ⟨-, rfl⟩ <;>
      rcases mem_accessorNames.1 hb with ⟨-, hb⟩ | ⟨-, hb⟩
    · exact hfg (happend _ hb)
    · exact hgetset _ _ hb
    · exact hgetset _ _ hb.symm
    · exact hfg (happend _ hb)

end Config

/-! ### Functions of one proxy -/

/-- The members of a class can be told apart: constructors by their parameters, methods by their
names and parameters, and fields by their names. -/
structure ClassModel.HasDistinctMembers (c : ClassModel) : Prop where
  constructors : (c.constructors.map Method.parameterTypes).Nodup
  methods : (c.methods.map fun m => (m.name, m.parameterTypes)).Nodup
  fields : (c.fields.map Field.name).Nodup

instance (c : ClassModel) : Decidable c.HasDistinctMembers :=
  decidable_of_iff ((c.constructors.map Method.parameterTypes).Nodup
      ∧ (c.methods.map fun m => (m.name, m.parameterTypes)).Nodup ∧ (c.fields.map Field.name).Nodup)
    ⟨fun ⟨h₁, h₂, h₃⟩ => ⟨h₁, h₂, h₃⟩, fun ⟨h₁, h₂, h₃⟩ => ⟨h₁, h₂, h₃⟩⟩

namespace Config

variable {config : Config} {c : ClassModel} {enclosing : Option JavaType}
  {constructors methods : List (Resolved Method)}

theorem nodup_constructorNames (hapart : config.NamesApart c) (hdistinct : c.HasDistinctMembers)
    (h : resolveMethods c.enclosingInstance (config.proxiedConstructors c) = .ok constructors) :
    (constructors.map Resolved.functionName).Nodup := by
  have hname : ∀ m ∈ config.proxiedConstructors c, m.name = constructorName := fun m hm =>
    of_decide_eq_true (hapart.isConstructor m hm)
  refine nodup_functionNames h ?_ ?_ ?_ ?_
  · have hsub : (config.proxiedConstructors c).Sublist c.constructors := by
      rw [proxiedConstructors]
      split
      · exact List.nil_sublist _
      · exact List.filter_sublist
    refine nodup_map_of_nodup_map (hdistinct.constructors.sublist (hsub.map _)) ?_
    intro m hm n hn hmn
    have hparameters := congrArg Prod.snd hmn
    dsimp only at hparameters
    rw [Method.jvmParameters_of_isConstructor (hapart.isConstructor m hm),
      Method.jvmParameters_of_isConstructor (hapart.isConstructor n hn)] at hparameters
    exact List.append_cancel_left hparameters
  · exact fun m hm => hapart.types m (List.mem_append_left _ hm)
  · intro m hm n hn _
    rw [hname m hm, hname n hn]
  · -- constructors have the same name, so that all of them have suffixes or none has one
    intro m hm n hn
    obtain ⟨hm, hneeds⟩ := List.mem_filter.1 hm
    obtain ⟨hn, hplain⟩ := List.mem_filter.1 hn
    have hsame (names : List String) : n.needsSuffix names = m.needsSuffix names := by
      rw [Method.needsSuffix, Method.needsSuffix, hapart.isConstructor n hn,
        hapart.isConstructor m hm, hname n hn, hname m hm]
    rw [hsame, hneeds] at hplain
    cases hplain

theorem nodup_methodNames (hapart : config.NamesApart c) (hdistinct : c.HasDistinctMembers)
    (h : resolveMethods c.enclosingInstance (config.proxiedMethods c) = .ok methods) :
    (methods.map Resolved.functionName).Nodup := by
  have hbase : ∀ m ∈ config.proxiedMethods c, m.baseName = identifier m.name := fun m hm =>
    Method.baseName_of_not_isConstructor (hapart.not_isConstructor m hm)
  refine nodup_functionNames h ?_ ?_ ?_ ?_
  · have hsub : (config.proxiedMethods c).Sublist c.methods := List.filter_sublist
    refine nodup_map_of_nodup_map (hdistinct.methods.sublist (hsub.map _)) ?_
    intro m hm n hn hmn
    rwa [Method.jvmParameters_of_not_isConstructor (hapart.not_isConstructor m hm),
      Method.jvmParameters_of_not_isConstructor (hapart.not_isConstructor n hn)] at hmn
  · exact fun m hm => hapart.types m (List.mem_append_right _ hm)
  · intro m hm n hn hmn
    rw [hbase m hm, hbase n hn] at hmn
    exact hapart.identifiers _ (List.mem_append_left _ (List.mem_map_of_mem hm)) _
      (List.mem_append_left _ (List.mem_map_of_mem hn)) hmn
  · intro m hm n hn
    rw [hbase n (List.mem_filter.1 hn).1]
    exact hapart.suffixes m (List.mem_append_right _ hm) _
      (List.mem_append_left _ (List.mem_map_of_mem hn))

/-- A function of a method is called like none that every proxy has. -/
theorem functionName_ne_of_mem_proxyNames (hapart : config.NamesApart c)
    (h : resolveMethods c.enclosingInstance (config.proxiedMethods c) = .ok methods)
    {r : Resolved Method} (hr : r ∈ methods) {word : String} (hword : word ∈ proxyNames)
    (hunderscore : '_' ∉ word.toList) : r.functionName ≠ word := by
  intro hname
  rcases isNamed_of_resolveMethods h hr with ⟨hplain, hbase⟩ | ⟨-, hbase⟩
  · obtain ⟨hmem, hneeds⟩ := List.mem_filter.1 hplain
    rw [hbase, Method.baseName_of_not_isConstructor (hapart.not_isConstructor _ hmem)] at hname
    have hreserved : isReserved r.member.name := by
      rw [eq_of_identifier_eq hunderscore hname, isReserved, List.contains_iff_mem.2 hword,
        Bool.or_true]
    rw [Method.needsSuffix, hapart.not_isConstructor _ hmem, hreserved] at hneeds
    simp at hneeds
  · exact hunderscore (hname ▸ Method.underscore_mem_of_overloadName hbase)

/-- Of the methods, only one that has the parameters of an overloaded constructor can have a
function that is called like the function of a constructor. -/
theorem of_constructorName_eq_methodName (hapart : config.NamesApart c)
    (hconstructors :
      resolveMethods c.enclosingInstance (config.proxiedConstructors c) = .ok constructors)
    (hmethods : resolveMethods c.enclosingInstance (config.proxiedMethods c) = .ok methods)
    {q r : Resolved Method} (hq : q ∈ constructors) (hr : r ∈ methods)
    (hqr : q.functionName = r.functionName) :
    q.member ∈ suffixed (config.proxiedConstructors c) ∧ r.member ∈ config.proxiedMethods c
      ∧ r.member.name = factoryName
      ∧ r.member.parameterTypes = q.member.jvmParameters c.enclosingInstance := by
  have hfactory {m : Method} (hm : m ∈ config.proxiedConstructors c) : m.baseName = factoryName :=
    Method.baseName_of_isConstructor (hapart.isConstructor m hm)
  have hbase {m : Method} (hm : m ∈ config.proxiedMethods c) : m.baseName = identifier m.name :=
    Method.baseName_of_not_isConstructor (hapart.not_isConstructor m hm)
  rcases isNamed_of_resolveMethods hconstructors hq with ⟨hqu, hqn⟩ | ⟨hqs, hqn⟩
  · rw [hqr, hfactory (List.mem_filter.1 hqu).1] at hqn
    exact absurd hqn
      (functionName_ne_of_mem_proxyNames hapart hmethods hr (by decide) (by decide))
  rw [hqr] at hqn
  rcases isNamed_of_resolveMethods hmethods hr with ⟨hru, hrn⟩ | ⟨hrs, hrn⟩
  · rw [hrn, hbase (List.mem_filter.1 hru).1] at hqn
    exact absurd hqn (hapart.suffixes _ (List.mem_append_left _ hqs) _
      (List.mem_append_left _ (List.mem_map_of_mem hru)))
  · have hqmem := (List.mem_filter.1 hqs).1
    have hrmem := (List.mem_filter.1 hrs).1
    obtain ⟨hname, hparameters⟩ := Method.eq_of_overloadName_eq
      (hapart.types _ (List.mem_append_left _ hqmem))
      (hapart.types _ (List.mem_append_right _ hrmem)) hqn hrn
    rw [hfactory hqmem, hbase hrmem] at hname
    refine ⟨hqs, hrmem, eq_of_identifier_eq (by decide) hname.symm, ?_⟩
    rw [hparameters, Method.jvmParameters_of_not_isConstructor (hapart.not_isConstructor _ hrmem)]

theorem head?_constructorName (hapart : config.NamesApart c)
    (h : resolveMethods c.enclosingInstance (config.proxiedConstructors c) = .ok constructors)
    {r : Resolved Method} (hr : r ∈ constructors) : r.functionName.toList.head? = some 'n' := by
  have hfactory {m : Method} (hm : m ∈ config.proxiedConstructors c) : m.baseName = factoryName :=
    Method.baseName_of_isConstructor (hapart.isConstructor m hm)
  rcases isNamed_of_resolveMethods h hr with ⟨hru, hrn⟩ | ⟨hrs, hrn⟩
  · rw [hrn, hfactory (List.mem_filter.1 hru).1]
    decide
  · obtain ⟨s, -, hs⟩ := Method.overloadName_eq_ok_iff.1 hrn
    rw [hs, hfactory (List.mem_filter.1 hrs).1, String.toList_append]
    rfl

/-- An accessor is called like no function of a method. -/
theorem methodName_ne_accessorName (hapart : config.NamesApart c)
    (h : resolveMethods c.enclosingInstance (config.proxiedMethods c) = .ok methods)
    {r : Resolved Method} (hr : r ∈ methods) {f : Field} (hf : f ∈ config.proxiedFields c)
    {a : String} (ha : a ∈ config.accessorNames c f) : r.functionName ≠ identifier a := by
  intro hname
  have hamem : a ∈ (config.proxiedFields c).flatMap (config.accessorNames c) :=
    List.mem_flatMap.2 ⟨f, hf, ha⟩
  rcases isNamed_of_resolveMethods h hr with ⟨hru, hrn⟩ | ⟨hrs, hrn⟩
  · have hmem := (List.mem_filter.1 hru).1
    rw [hname, Method.baseName_of_not_isConstructor (hapart.not_isConstructor _ hmem)] at hrn
    have hsame := hapart.identifiers a (List.mem_append_right _ hamem) _
      (List.mem_append_left _ (List.mem_map_of_mem hmem)) hrn
    cases hrequest : f.accessorRequest? with
    | none =>
      have hno := hasMethod_eq_false_of_mem_accessorNames hrequest ha
      rw [ClassModel.hasMethod, List.any_eq_false] at hno
      exact hno _ (mem_of_mem_proxiedMethods hmem) (decide_eq_true hsame.symm)
    | some request =>
      refine hapart.requests f hf (by rw [hrequest]; rfl) a ha ?_
      rw [hsame]
      exact List.mem_map_of_mem hru
  · rw [hname] at hrn
    exact hapart.suffixes _ (List.mem_append_right _ hrs) a (List.mem_append_right _ hamem) hrn

end Config

end JniBindings
