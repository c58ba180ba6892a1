import JniBindings.NativeParameter
import JniBindings.Overload
import JniBindings.Proofs.JavaType.MethodType
import JniBindings.Proofs.JavaType.Native
import Mathlib.Data.List.NodupEquivFin
/-!
# Members and their descriptors

What is generated for a member is made from its types in several ways: as a descriptor, as a list of
parameters and as native types. The descriptor can be read back (`Method.ofDescriptor_descriptor`),
and the parameters have the types of the declaration in its order (`NativeParameter.types_ofMethod`,
`NativeParameter.natives_ofMethod`).
-/

namespace JniBindings

/-- A member shares its name with one at another place if the name occurs more than once. -/
theorem one_lt_occurrences_iff {ns : List String} {i : Nat} {name : String}
    (hi : ns[i]? = some name) :
    1 < occurrences name ns ↔ ∃ j, j ≠ i ∧ ns[j]? = some name := by
  rw [occurrences, ← Nat.succ_le_iff, ← List.duplicate_iff_two_le_count,
    List.duplicate_iff_exists_distinct_get]
  constructor
  · rintro ⟨j, k, hjk, hj, hk⟩
    by_cases hij : j.val = i
    · exact ⟨k, by omega, by simp [hk]⟩
    · exact ⟨j, hij, by simp [hj]⟩
  · rintro ⟨j, hij, hj⟩
    obtain ⟨hi, hni⟩ := List.getElem?_eq_some_iff.1 hi
    obtain ⟨hj, hnj⟩ := List.getElem?_eq_some_iff.1 hj
    rcases Nat.lt_or_gt_of_ne hij with hlt | hlt
    · exact ⟨⟨j, hj⟩, ⟨i, hi⟩, hlt, by simp [hnj], by simp [hni]⟩
    · exact ⟨⟨i, hi⟩, ⟨j, hj⟩, hlt, by simp [hni], by simp [hnj]⟩

theorem blame_eq_ok_iff {α : Type} {member : String} {x : Except Failure α} {a : α} :
    blame member x = .ok a ↔ x = .ok a := by
  cases x <;> simp [blame]

theorem JavaType.isDescribable_of_descriptor {t : JavaType} {d : String}
    (h : t.descriptor = .ok d) : t.isDescribable := by
  rw [descriptor] at h
  split_ifs at h with hdescribable
  exact hdescribable

/-- The descriptor of a type that could be written is read back. -/
theorem JavaType.ofDescriptor_of_descriptor {t : JavaType} {d : String} (h : t.descriptor = .ok d)
    (ht : t.NamesHave IsDescribed) : ofDescriptor d = .ok t := by
  have hdescribable := isDescribable_of_descriptor h
  rw [descriptor, if_pos hdescribable] at h
  obtain rfl := Except.ok.inj h
  have hread := read_descriptorChars_append (hasNames_iff.2 ⟨hdescribable, ht⟩) []
  rw [List.append_nil] at hread
  rw [ofDescriptor, faultIn_complete_eq_ok_iff, String.toList_ofList, hread]

namespace MethodType

theorem isDescribable_of_descriptor {m : MethodType} {d : String} (h : m.descriptor = .ok d) :
    m.parameters.all JavaType.isDescribable ∧ m.result.isDescribable := by
  obtain ⟨parameters, hp, h⟩ := bind_eq_ok_iff.1 h
  obtain ⟨result, hr, -⟩ := bind_eq_ok_iff.1 h
  rw [JavaType.listDescriptor] at hp
  split_ifs at hp with hall
  exact ⟨hall, JavaType.isDescribable_of_descriptor hr⟩

/-- A descriptor that could be written is read back. -/
theorem ofDescriptor_of_descriptor {m : MethodType} {d : String} (h : m.descriptor = .ok d)
    (hp : ∀ t ∈ m.parameters, t.NamesHave JavaType.IsDescribed)
    (hr : m.result.NamesHave JavaType.IsDescribed) : ofDescriptor d = .ok m := by
  obtain ⟨hall, hdescribable⟩ := isDescribable_of_descriptor h
  exact ofDescriptor_descriptor
    ⟨fun t ht => JavaType.hasNames_iff.2 ⟨List.all_eq_true.1 hall t ht, hp t ht⟩,
      JavaType.hasNames_iff.2 ⟨hdescribable, hr⟩⟩ h

end MethodType

namespace Method

/-- The types in the declaration of a method. -/
def types (m : Method) : List JavaType := m.result :: m.parameterTypes

theorem jvmParameters_none (m : Method) : m.jvmParameters none = m.parameterTypes := by
  rw [jvmParameters]
  exact ite_self _

theorem jvmParameters_of_isConstructor {m : Method} (h : m.isConstructor)
    (enclosing : Option JavaType) :
    m.jvmParameters enclosing = enclosing.toList ++ m.parameterTypes := by
  rw [jvmParameters, if_pos h]

theorem jvmParameters_of_not_isConstructor {m : Method} (h : m.isConstructor = false)
    (enclosing : Option JavaType) : m.jvmParameters enclosing = m.parameterTypes := by
  rw [jvmParameters, h]
  rfl

theorem mem_jvmParameters_iff {m : Method} {enclosing : Option JavaType} {t : JavaType} :
    t ∈ m.jvmParameters enclosing ↔ (m.isConstructor ∧ t ∈ enclosing) ∨ t ∈ m.parameterTypes := by
  rw [jvmParameters]
  split
  · next hm => simp [hm]
  · next hm => simp [hm]

theorem mem_jvmParameters {m : Method} {enclosing : Option JavaType} {t : JavaType}
    (h : t ∈ m.jvmParameters enclosing) : t ∈ enclosing ∨ t ∈ m.parameterTypes :=
  (mem_jvmParameters_iff.1 h).imp_left And.right

/-- The descriptor of a method gives back what the virtual machine sees of the method. -/
theorem ofDescriptor_descriptor {m : Method} {enclosing : Option JavaType} {d : String}
    (h : m.descriptor enclosing = .ok d)
    (hm : ∀ t ∈ m.types, t.NamesHave JavaType.IsDescribed)
    (he : ∀ t ∈ enclosing, t.NamesHave JavaType.IsDescribed) :
    MethodType.ofDescriptor d = .ok (m.jvmType enclosing) := by
  refine MethodType.ofDescriptor_of_descriptor (blame_eq_ok_iff.1 h) (fun t ht => ?_)
    (hm _ List.mem_cons_self)
  rcases mem_jvmParameters ht with ht | ht
  · exact he t ht
  · exact hm t (List.mem_cons_of_mem _ ht)

theorem listDescriptor_of_descriptor {m : Method} {d : String} (h : m.descriptor none = .ok d) :
    ∃ parameters, JavaType.listDescriptor m.parameterTypes = .ok parameters := by
  obtain ⟨parameters, hp, -⟩ := bind_eq_ok_iff.1 (blame_eq_ok_iff.1 h)
  rw [jvmType, jvmParameters_none] at hp
  exact ⟨parameters, hp⟩

end Method

namespace NativeParameter

theorem ofParameter_eq_ok_iff {p : Parameter} {i : Nat} {q : NativeParameter} :
    ofParameter p i = .ok q
      ↔ q.name = nameAt p.name i ∧ q.type = p.type ∧ p.type.native = .ok q.native := by
  rw [ofParameter, bind_eq_ok_iff]
  constructor
  · rintro ⟨native, hnative, h⟩
    have hq : ⟨nameAt p.name i, p.type, native⟩ = q := Except.ok.inj h
    subst hq
    simp only [hnative, and_self]
  · rintro ⟨hname, htype, hnative⟩
    refine ⟨q.native, hnative, ?_⟩
    rw [← hname, ← htype]
    rfl

/-- Each parameter of a method becomes one parameter of its function. -/
theorem forall₂_ofMethod {m : Method} {ps : List NativeParameter} (h : ofMethod m = .ok ps) :
    List.Forall₂ (fun p q => ofParameter p.1 p.2 = .ok q) m.parameters.zipIdx ps :=
  mapM_eq_ok_iff.1 (blame_eq_ok_iff.1 h)

theorem parameterTypes_eq (m : Method) :
    m.parameterTypes = m.parameters.zipIdx.map fun p => p.1.type := by
  change _ = m.parameters.zipIdx.map (Parameter.type ∘ Prod.fst)
  rw [← List.map_map, List.zipIdx_map_fst]
  rfl

theorem types_ofMethod {m : Method} {ps : List NativeParameter} (h : ofMethod m = .ok ps) :
    ps.map type = m.parameterTypes := by
  rw [parameterTypes_eq, eq_comm]
  exact map_eq_map_of_forall₂ (forall₂_ofMethod h) fun _ _ hq =>
    (ofParameter_eq_ok_iff.1 hq).2.1.symm

theorem natives_ofMethod {m : Method} {ps : List NativeParameter} (h : ofMethod m = .ok ps) :
    m.parameterTypes.mapM JavaType.native = .ok (ps.map native) := by
  rw [parameterTypes_eq, mapM_eq_ok_iff, List.forall₂_map_left_iff, List.forall₂_map_right_iff]
  exact (forall₂_ofMethod h).imp fun _ _ hq => (ofParameter_eq_ok_iff.1 hq).2.2

end NativeParameter

end JniBindings
