import JniBindings.Proofs.Overload
/-!
# Resolving overloaded methods

Methods that differ in their names or their parameters can always be resolved, and then those that
share a name have different suffixes (`resolveMethods_separates`). Whether a method has a suffix
depends on the other names alone, and the suffix is made from the parameters in the method's
descriptor and from nothing else.
-/

namespace JniBindings

open JavaType (IsDescribed)

/-! ### Descriptors and suffixes -/

namespace Method

variable {m n : Method} {enclosing : Option JavaType} {s t : String}

/-- The descriptor of a method has the parameters that its suffix is made from between its
brackets. -/
theorem exists_descriptor_of_overloadSuffix (hs : m.overloadSuffix enclosing = .ok s)
    (hresult : m.result.isDescribable) :
    ∃ parameters result, JavaType.listDescriptor (m.jvmParameters enclosing) = .ok parameters
      ∧ m.result.descriptor = .ok result
      ∧ m.descriptor enclosing = .ok ("(" ++ parameters ++ ")" ++ result)
      ∧ s = "__" ++ Symbol.token parameters := by
  obtain ⟨parameters, hparameters, rfl⟩ := overloadSuffix_eq_ok_iff.1 hs
  have hdescriptor : m.result.descriptor = .ok (String.ofList m.result.descriptorChars) :=
    if_pos hresult
  refine ⟨parameters, _, hparameters, hdescriptor, ?_, rfl⟩
  rw [descriptor, blame_eq_ok_iff, MethodType.descriptor]
  show (JavaType.listDescriptor (m.jvmParameters enclosing) >>= _) = _
  rw [hparameters]
  show (m.result.descriptor >>= _) = _
  rw [hdescriptor]
  rfl

theorem exists_overloadSuffix
    (hm : ∀ t ∈ m.jvmParameters enclosing, t.HasNames IsDeclaredName) :
    ∃ s, m.overloadSuffix enclosing = .ok s := by
  have hnames : ∀ t ∈ m.jvmParameters enclosing, t.HasNames IsDescribed := fun t ht =>
    (hm t ht).imp fun _ hname => hname.isDescribed
  exact ⟨_, overloadSuffix_eq_ok_iff.2 ⟨_, JavaType.listDescriptor_of_hasNames hnames, rfl⟩⟩

/-- Methods of one name have the same parameters for the virtual machine only if they are declared
with the same parameters. -/
theorem parameterTypes_eq_of_jvmParameters_eq (hname : m.name = n.name)
    (h : m.jvmParameters enclosing = n.jvmParameters enclosing) :
    m.parameterTypes = n.parameterTypes := by
  have hkind : m.isConstructor = n.isConstructor := by rw [isConstructor, isConstructor, hname]
  unfold jvmParameters at h
  rw [hkind] at h
  split at h
  · exact List.append_cancel_left h
  · exact h

theorem baseName_eq_of_name_eq (hname : m.name = n.name) : m.baseName = n.baseName := by
  rw [baseName, baseName, isConstructor, isConstructor, hname]

end Method

/-! ### Resolving -/

variable {enclosing : Option JavaType} {ms : List Method} {rs : List (Resolved Method)}

/-- Methods can be resolved if those that need suffixes have them. -/
theorem exists_resolveMethods (h : ∀ m ∈ ms, ∃ s, m.overloadSuffix enclosing = .ok s) :
    ∃ rs, resolveMethods enclosing ms = .ok rs := by
  have hresolve : ∀ p ∈ indexed Method.name [] ms, ∃ r,
      resolveMethod enclosing (ms.map Method.name) p.1 p.2 = .ok r ∧ True := by
    intro p hp
    obtain ⟨s, hs⟩ := h p.1 (mem_of_mem_indexed hp)
    rw [resolveMethod, hs]
    split
    · exact ⟨_, rfl, trivial⟩
    · exact ⟨_, rfl, trivial⟩
  obtain ⟨rs, hrs, -⟩ := exists_mapM_eq_ok hresolve
  exact ⟨rs, hrs⟩

theorem Resolved.functionName_of_suffix {r : Resolved Method} {s : String}
    (h : r.suffix = some s) : r.functionName = r.member.baseName ++ s := by
  rw [functionName, h]
  rfl

section Resolved

variable (h : resolveMethods enclosing ms = .ok rs)
include h

theorem getElem?_of_resolveMethods {i : Nat} {r : Resolved Method} (hr : rs[i]? = some r) :
    ms[i]? = some r.member := by
  rw [← map_member_resolveMethods h, List.getElem?_map, hr]
  rfl

/-- A resolved method has a suffix if it needs one, and then the one that it has to have. -/
theorem suffix_of_resolveMethods {r : Resolved Method} (hr : r ∈ rs) :
    (r.suffix.isSome ↔ r.member.needsSuffix (ms.map Method.name))
      ∧ ∀ s, r.suffix = some s → r.member.overloadSuffix enclosing = .ok s := by
  obtain ⟨⟨m, i⟩, -, hm⟩ := exists_of_mem_mapM h hr
  rcases resolveMethod_cases hm with ⟨hneeds, rfl⟩ | ⟨hneeds, s, hs, rfl⟩
  · exact ⟨iff_of_false nofun hneeds, nofun⟩
  · refine ⟨iff_of_true rfl hneeds, ?_⟩
    rintro t ⟨⟩
    exact hs

/-- Methods of one name at two places have suffixes. -/
theorem exists_suffix_of_name_eq {i j : Nat} {q r : Resolved Method} (hij : j ≠ i)
    (hq : rs[i]? = some q) (hr : rs[j]? = some r) (hname : q.member.name = r.member.name) :
    ∃ s, q.suffix = some s ∧ q.member.overloadSuffix enclosing = .ok s := by
  have hat {k : Nat} {u : Resolved Method} (hu : rs[k]? = some u) :
      (ms.map Method.name)[k]? = some u.member.name := by
    rw [List.getElem?_map, getElem?_of_resolveMethods h hu]
    rfl
  have htwice : 1 < occurrences q.member.name (ms.map Method.name) :=
    (one_lt_occurrences_iff (hat hq)).2 ⟨j, hij, hname ▸ hat hr⟩
  obtain ⟨hsome, hsuffix⟩ := suffix_of_resolveMethods h (List.mem_of_getElem? hq)
  have hneeds : q.member.needsSuffix (ms.map Method.name) := by
    rw [Method.needsSuffix, decide_eq_true htwice, Bool.true_or]
  obtain ⟨s, hs⟩ := Option.isSome_iff_exists.1 (hsome.2 hneeds)
  exact ⟨s, hs, hsuffix s hs⟩

end Resolved

/-- How often the name of constructors occurs is how many constructors there are. -/
theorem occurrences_constructorName (ms : List Method) :
    occurrences constructorName (ms.map Method.name) = ms.countP Method.isConstructor := by
  unfold occurrences List.count
  rw [List.countP_map]
  refine List.countP_congr fun m _ => ?_
  simp [Method.isConstructor]

theorem needsSuffix_constructor {m : Method} (hm : m.isConstructor) :
    m.needsSuffix (ms.map Method.name) ↔ 1 < ms.countP Method.isConstructor := by
  have hname : m.name = constructorName := of_decide_eq_true hm
  simp [Method.needsSuffix, hm, hname, occurrences_constructorName]

theorem needsSuffix_method {m : Method} (hm : m.isConstructor = false) {i : Nat}
    (hi : ms[i]? = some m) :
    m.needsSuffix (ms.map Method.name)
      ↔ (∃ j, j ≠ i ∧ (ms.map Method.name)[j]? = some m.name) ∨ isReserved m.name := by
  have hat : (ms.map Method.name)[i]? = some m.name := by rw [List.getElem?_map, hi]; rfl
  simp only [Method.needsSuffix, hm, Bool.or_eq_true, decide_eq_true_eq, Bool.not_false,
    Bool.true_and, one_lt_occurrences_iff hat]

/-- Methods and constructors that differ in their names or parameters can be resolved. Those that
share a name then have suffixes that are not empty and differ, and so do their functions. A method
has a suffix if another one shares its name or if its name is reserved, a constructor if there are
several, and the suffix consists of two underscores and the parameters in the descriptor. -/
theorem resolveMethods_separates (hms : (ms.map fun m => (m.name, m.parameterTypes)).Nodup)
    (htypes : ∀ m ∈ ms, ∀ t ∈ m.jvmParameters enclosing, t.HasNames IsDeclaredName)
    (hresults : ∀ m ∈ ms, m.result.isDescribable) :
    ∃ rs, resolveMethods enclosing ms = .ok rs ∧ rs.map Resolved.member = ms
      ∧ (∀ (i j : Nat) (q r : Resolved Method), i ≠ j →
        rs[i]? = some q → rs[j]? = some r → q.member.name = r.member.name →
        q.functionName ≠ r.functionName
          ∧ ∃ s t, q.suffix = some s ∧ r.suffix = some t ∧ s ≠ "" ∧ t ≠ "" ∧ s ≠ t)
      ∧ (∀ (i : Nat) (r : Resolved Method), rs[i]? = some r →
        (r.member.isConstructor = false → (r.suffix.isSome
          ↔ (∃ j, j ≠ i ∧ (ms.map Method.name)[j]? = some r.member.name)
            ∨ isReserved r.member.name))
        ∧ (r.member.isConstructor → (r.suffix.isSome ↔ 1 < ms.countP Method.isConstructor)))
      ∧ ∀ r ∈ rs, ∀ s, r.suffix = some s → ∃ parameters result,
        JavaType.listDescriptor (r.member.jvmParameters enclosing) = .ok parameters
          ∧ r.member.result.descriptor = .ok result
          ∧ r.member.descriptor enclosing = .ok ("(" ++ parameters ++ ")" ++ result)
          ∧ s = "__" ++ Symbol.token parameters := by
  obtain ⟨rs, h⟩ : ∃ rs, resolveMethods enclosing ms = .ok rs :=
    exists_resolveMethods fun m hm => Method.exists_overloadSuffix (htypes m hm)
  have hmembers := map_member_resolveMethods h
  refine ⟨rs, h, hmembers, fun i j q r hij hq hr hname => ?_, fun i r hr => ?_, ?_⟩
  · obtain ⟨s, hqs, hs⟩ := exists_suffix_of_name_eq h hij.symm hq hr hname
    obtain ⟨t, hrt, ht⟩ := exists_suffix_of_name_eq h hij hr hq hname.symm
    have hqm := getElem?_of_resolveMethods h hq
    have hrm := getElem?_of_resolveMethods h hr
    have hnamed (u : Method) {k : Nat} (hu : ms[k]? = some u) :
        ∀ t ∈ u.jvmParameters enclosing, t.NamesHave IsDeclaredName := fun t ht =>
      (JavaType.hasNames_iff.1 (htypes u (List.mem_of_getElem? hu) t ht)).2
    -- functions of one name are those of one place
    have hfunctions : q.functionName ≠ r.functionName := by
      intro heq
      rw [Resolved.functionName_of_suffix hqs, Resolved.functionName_of_suffix hrt] at heq
      obtain ⟨-, hparameters⟩ := Method.eq_of_append_overloadSuffix_eq (hnamed _ hqm)
        (hnamed _ hrm) hs ht heq
      have htypes := Method.parameterTypes_eq_of_jvmParameters_eq hname hparameters
      obtain ⟨hi, -⟩ := List.getElem?_eq_some_iff.1 hqm
      refine hij ((List.getElem?_inj (by simpa using hi) hms).1 ?_)
      simp [hqm, hrm, hname, htypes]
    refine ⟨hfunctions, s, t, hqs, hrt, ?_, ?_, fun hst => hfunctions ?_⟩
    · obtain ⟨d, -, rfl⟩ := Method.overloadSuffix_eq_ok_iff.1 hs
      simp
    · obtain ⟨d, -, rfl⟩ := Method.overloadSuffix_eq_ok_iff.1 ht
      simp
    · rw [Resolved.functionName_of_suffix hqs, Resolved.functionName_of_suffix hrt, hst,
        Method.baseName_eq_of_name_eq hname]
  · have hsuffix := (suffix_of_resolveMethods h (List.mem_of_getElem? hr)).1
    refine ⟨fun hm => hsuffix.trans ?_, fun hm => hsuffix.trans (needsSuffix_constructor hm)⟩
    exact needsSuffix_method hm (getElem?_of_resolveMethods h hr)
  · intro r hr s hs
    exact Method.exists_descriptor_of_overloadSuffix ((suffix_of_resolveMethods h hr).2 s hs)
      (hresults _ (mem_of_resolveMethods h hr))

/-- Constructors and methods of an inner class, with overloads and a reserved name. -/
def overloads : List Method :=
  let method (name : String) (types : List JavaType) : Method :=
    { declaringClass := "a.B", name, result := .void
      parameters := types.map fun type => ⟨"x", type⟩, modifiers := .ofList [] }
  [method constructorName [], method constructorName [.array (.primitive .int)],
    method "f" [.primitive .int], method "delete" [.string], method "f" [.declared "a._b"],
    method "g" []]

theorem resolveMethods_separates_overloads :
    ∃ rs, resolveMethods (some (.declared "a.C")) overloads = .ok rs
      ∧ rs.map Resolved.member = overloads
      ∧ (∀ (i j : Nat) (q r : Resolved Method), i ≠ j → rs[i]? = some q → rs[j]? = some r →
        q.member.name = r.member.name → q.functionName ≠ r.functionName)
      ∧ rs.map Resolved.functionName = ["newInstance__La_C_2", "newInstance__La_C_2_0005bI",
        "f__I", "delete__Ljava_lang_String_2", "f__La__1b_2", "g"] := by
  have hms : (overloads.map fun m => (m.name, m.parameterTypes)).Nodup := by decide
  have htypes : ∀ m ∈ overloads, ∀ t ∈ m.jvmParameters (some (.declared "a.C")),
      t.HasNames IsDeclaredName := by
    have hC : IsDeclaredName "a.C" :=
      ⟨⟨by simp [Text.splitOn, Text.StartsWith], by simp⟩, by simp, by simp⟩
    have hb : IsDeclaredName "a._b" :=
      ⟨⟨by simp [Text.splitOn, Text.StartsWith], by simp⟩, by simp, by simp⟩
    have hstring : IsDeclaredName "java.lang.String" :=
      ⟨⟨by simp [Text.splitOn, Text.StartsWith], by simp⟩, by simp, by simp⟩
    have htypes : overloads.flatMap (·.jvmParameters (some (.declared "a.C")))
        = [.declared "a.C", .declared "a.C", .array (.primitive .int), .primitive .int, .string,
          .declared "a._b"] := by decide
    have hall : ∀ t ∈ overloads.flatMap (·.jvmParameters (some (.declared "a.C"))),
        t.HasNames IsDeclaredName := by
      simp [htypes, JavaType.HasNames, JavaType.string, hC, hb, hstring]
    exact fun m hm t ht => hall t (List.mem_flatMap_of_mem hm ht)
  have hresults : ∀ m ∈ overloads, m.result.isDescribable := by decide
  obtain ⟨rs, hrs, hmembers, hseparate, -, -⟩ := resolveMethods_separates hms htypes hresults
  refine ⟨rs, hrs, hmembers, fun i j q r hij hq hr hname => (hseparate i j q r hij hq hr hname).1,
    ?_⟩
  have hnames : (resolveMethods (some (.declared "a.C")) overloads).map
      (List.map Resolved.functionName) = .ok ["newInstance__La_C_2", "newInstance__La_C_2_0005bI",
        "f__I", "delete__Ljava_lang_String_2", "f__La__1b_2", "g"] := by decide +kernel
  rw [hrs] at hnames
  exact Except.ok.inj hnames

end JniBindings
