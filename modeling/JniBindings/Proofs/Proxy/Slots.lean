import JniBindings.Proofs.ClassModel
import JniBindings.Proofs.ClassNames
import JniBindings.Proofs.Overload.Slots
import JniBindings.Proxy.Initialization
/-!
# Slots of a proxy

Every member of a proxy has a slot of its own, if the names of methods and those of fields stay
apart as identifiers, and only then (`Proxy.slots_distinct_iff`). Slots of different kinds of
members are told apart by their beginnings (`slotKind`).
-/

namespace JniBindings

/-- The second character of a slot tells what kind of member it belongs to. -/
def slotKind (slot : String) : Option Char := slot.toList[1]?

theorem disjoint_of_slotKind {ss ts : List String} {c d : Char}
    (hs : ∀ s ∈ ss, slotKind s = some c) (ht : ∀ t ∈ ts, slotKind t = some d) (hcd : c ≠ d) :
    ss.Disjoint ts := by
  intro s hss hst
  have hc := hs s hss
  rw [ht s hst] at hc
  exact hcd (Option.some.inj hc).symm

namespace Resolved

/-- The slot of a constructor is told by its index alone. -/
theorem methodSlot_of_isConstructor {r : Resolved Method} (h : r.member.isConstructor) :
    r.methodSlot = "sConstruct_" ++ toString r.index := if_pos h

theorem methodSlot_of_not_isConstructor {r : Resolved Method} (h : r.member.isConstructor = false) :
    r.methodSlot = numberedSlot "sMethod_" r.member.name r.index := by
  rw [methodSlot, h]
  rfl

theorem slotKind_of_isConstructor {r : Resolved Method} (h : r.member.isConstructor) :
    slotKind r.methodSlot = some 'C' := by
  rw [methodSlot_of_isConstructor h, slotKind, String.toList_append]
  rfl

theorem slotKind_of_not_isConstructor {r : Resolved Method} (h : r.member.isConstructor = false) :
    slotKind r.methodSlot = some 'M' := by
  rw [methodSlot_of_not_isConstructor h, numberedSlot, slotKind, String.append_assoc,
    String.append_assoc, String.toList_append]
  rfl

theorem slotKind_fieldSlot (r : Resolved Field) : slotKind r.fieldSlot = some 'F' := by
  rw [fieldSlot, slotKind, String.append_assoc, String.append_assoc, String.toList_append]
  rfl

end Resolved

section Resolved

variable {enclosing : Option JavaType} {ms : List Method} {rs : List (Resolved Method)}
  (h : resolveMethods enclosing ms = .ok rs)
include h

theorem nodup_constructorSlots (hms : ∀ m ∈ ms, m.isConstructor) :
    (rs.map Resolved.methodSlot).Nodup := by
  have hindexed := nodup_indexed Method.name [] ms
  rw [← map_index_resolveMethods h, List.map_map] at hindexed
  refine nodup_map_of_nodup_map hindexed fun q hq r hr hqr => ?_
  have hqm := hms _ (mem_of_resolveMethods h hq)
  have hrm := hms _ (mem_of_resolveMethods h hr)
  have hname : q.member.name = r.member.name :=
    (of_decide_eq_true hqm).trans (of_decide_eq_true hrm).symm
  rw [Resolved.methodSlot_of_isConstructor hqm, Resolved.methodSlot_of_isConstructor hrm,
    ← String.toList_inj, String.toList_append, String.toList_append] at hqr
  have hindex := eq_of_toString_eq (String.toList_inj.1 (List.append_cancel_left hqr))
  show (q.member.name, q.index) = (r.member.name, r.index)
  rw [hname, hindex]

theorem nodup_methodSlots_iff (hms : ∀ m ∈ ms, m.isConstructor = false) :
    (rs.map Resolved.methodSlot).Nodup
      ↔ ∀ m ∈ ms, ∀ n ∈ ms, identifier m.name = identifier n.name → m.name = n.name := by
  have hslots : rs.map Resolved.methodSlot
      = (indexed Method.name [] ms).map fun p => numberedSlot "sMethod_" p.1.name p.2 := by
    rw [← map_index_resolveMethods h, List.map_map]
    exact List.map_congr_left fun r hr =>
      Resolved.methodSlot_of_not_isConstructor (hms _ (mem_of_resolveMethods h hr))
  rw [hslots]
  exact nodup_numberedSlots_iff "sMethod_"

end Resolved

theorem nodup_fieldSlots_iff (fs : List Field) :
    ((resolveFields fs).map Resolved.fieldSlot).Nodup
      ↔ ∀ f ∈ fs, ∀ g ∈ fs, identifier f.name = identifier g.name → f.name = g.name := by
  have hslots : (resolveFields fs).map Resolved.fieldSlot
      = (indexed Field.name [] fs).map fun p => numberedSlot "sField_" p.1.name p.2 := by
    rw [← map_index_resolveFields, List.map_map]
    rfl
  rw [hslots]
  exact nodup_numberedSlots_iff "sField_"

namespace Proxy

variable {config : Config} {names : ClassNames} {c : ClassModel} {p : Proxy}
  {constructors methods : List (Resolved Method)}

theorem IsMadeFrom.slots_eq (h : p.IsMadeFrom config names c constructors methods) :
    p.slots = constructors.map Resolved.methodSlot ++ methods.map Resolved.methodSlot
      ++ (resolveFields (config.proxiedFields c)).map Resolved.fieldSlot := by
  rw [slots, lookups, List.map_append, List.map_append, List.map_map, List.map_map, List.map_map,
    map_eq_map_of_forall₂ h.constructors fun r v hv => hv.slot.symm,
    map_eq_map_of_forall₂ h.methods fun r v hv => hv.slot.symm,
    map_eq_map_of_forall₂ h.fields fun r v hv => hv.slot.symm]
  rfl

/-- All slots differ if and only if no two names of methods and no two names of fields become the
same identifier. -/
theorem IsMadeFrom.nodup_slots_iff (h : p.IsMadeFrom config names c constructors methods)
    (hconstructor : ∀ m ∈ config.proxiedConstructors c, m.isConstructor)
    (hmethod : ∀ m ∈ config.proxiedMethods c, m.isConstructor = false) :
    p.slots.Nodup
      ↔ (∀ m ∈ config.proxiedMethods c, ∀ n ∈ config.proxiedMethods c,
          identifier m.name = identifier n.name → m.name = n.name)
        ∧ ∀ f ∈ config.proxiedFields c, ∀ g ∈ config.proxiedFields c,
          identifier f.name = identifier g.name → f.name = g.name := by
  have hconstructorKind : ∀ s ∈ constructors.map Resolved.methodSlot, slotKind s = some 'C' :=
    List.forall_mem_map.2 fun r hr => Resolved.slotKind_of_isConstructor
      (hconstructor _ (mem_of_resolveMethods h.resolvedConstructors hr))
  have hmethodKind : ∀ s ∈ methods.map Resolved.methodSlot, slotKind s = some 'M' :=
    List.forall_mem_map.2 fun r hr => Resolved.slotKind_of_not_isConstructor
      (hmethod _ (mem_of_resolveMethods h.resolvedMethods hr))
  have hfieldKind : ∀ s ∈ (resolveFields (config.proxiedFields c)).map Resolved.fieldSlot,
      slotKind s = some 'F' :=
    List.forall_mem_map.2 fun r _ => Resolved.slotKind_fieldSlot r
  have hconstructorMethod := disjoint_of_slotKind hconstructorKind hmethodKind (by decide)
  have hfield := List.disjoint_append_left.2
    ⟨disjoint_of_slotKind hconstructorKind hfieldKind (by decide),
      disjoint_of_slotKind hmethodKind hfieldKind (by decide)⟩
  rw [h.slots_eq, List.nodup_append', List.nodup_append',
    nodup_methodSlots_iff h.resolvedMethods hmethod, nodup_fieldSlots_iff]
  have hconstructors := nodup_constructorSlots h.resolvedConstructors hconstructor
  simp only [hconstructors, hconstructorMethod, hfield, and_true, true_and]

/-- The members that a proxy offers are resolved in the order of their declaration. The indices of
those of one name and one kind count from zero, and all slots differ if and only if no two names of
methods and no two names of fields become the same identifier. -/
theorem slots_distinct_iff (h : ofModel config names c = .ok p) (harises : c.Arises)
    (hmethods : ∀ m ∈ c.methods, m.isConstructor = false) :
    ∃ constructors methods fields,
      resolveMethods names.enclosingInstance (config.proxiedConstructors c) = .ok constructors
      ∧ resolveMethods names.enclosingInstance (config.proxiedMethods c) = .ok methods
      ∧ resolveFields (config.proxiedFields c) = fields
      ∧ (constructors.map Resolved.member = config.proxiedConstructors c
        ∧ methods.map Resolved.member = config.proxiedMethods c
        ∧ fields.map Resolved.member = config.proxiedFields c)
      ∧ (CountFromZero Method.name constructors ∧ CountFromZero Method.name methods
        ∧ CountFromZero Field.name fields)
      ∧ p.slots = constructors.map Resolved.methodSlot ++ methods.map Resolved.methodSlot
        ++ fields.map Resolved.fieldSlot
      ∧ (p.slots.Nodup
        ↔ (∀ m ∈ config.proxiedMethods c, ∀ n ∈ config.proxiedMethods c,
            identifier m.name = identifier n.name → m.name = n.name)
          ∧ ∀ f ∈ config.proxiedFields c, ∀ g ∈ config.proxiedFields c,
            identifier f.name = identifier g.name → f.name = g.name) := by
  obtain ⟨constructors, methods, hp⟩ := isMadeFrom_of_ofModel h
  refine ⟨constructors, methods, _, hp.resolvedConstructors, hp.resolvedMethods, rfl,
    ⟨map_member_resolveMethods hp.resolvedConstructors,
      map_member_resolveMethods hp.resolvedMethods, map_member_resolveFields _⟩,
    ⟨countFromZero_of_map_eq (map_index_resolveMethods hp.resolvedConstructors),
      countFromZero_of_map_eq (map_index_resolveMethods hp.resolvedMethods),
      countFromZero_of_map_eq (map_index_resolveFields _)⟩,
    hp.slots_eq, ?_⟩
  exact hp.nodup_slots_iff
    (fun m hm => harises.isConstructor m (Config.mem_of_mem_proxiedConstructors hm))
    (fun m hm => hmethods m (Config.mem_of_mem_proxiedMethods hm))

/-- A class with overloaded methods, and one that is called like a slot of these. -/
def countedClass : ClassModel :=
  (((((ClassModel.ofName "a.B").withConstructor [] (.ofList [.isPublic])).withMethod "f" .void []
    (.ofList [.isPublic])).withMethod "f_1" .void [] (.ofList [.isPublic])).withMethod "f" .void
    [⟨"x", .primitive .int⟩] (.ofList [.isPublic])).withField
    { declaringClass := "a.B", name := "f", type := .primitive .int,
      modifiers := .ofList [.isPublic] }

theorem slots_distinct_iff_countedClass :
    ∃ names p, ClassNames.ofModel countedClass = .ok names
      ∧ ofModel {} names countedClass = .ok p ∧ countedClass.Arises
      ∧ (∀ m ∈ countedClass.methods, m.isConstructor = false) ∧ p.slots.Nodup := by
  obtain ⟨names, hnames, hmade⟩ := ClassNames.exists_ofModel (c := countedClass) (by decide)
    (by decide) (by decide)
  have henclosing : names.enclosingInstance = none := hmade.enclosingInstance
  have harises : countedClass.Arises :=
    (((((ClassModel.Arises.ofName "a.B").withConstructor _ _).withMethod _ _ _ _).withMethod
      _ _ _ _).withMethod _ _ _ _).withField _
  have hmethods : ∀ m ∈ countedClass.methods, m.isConstructor = false := by decide
  obtain ⟨p, hp⟩ : ∃ p, ofModel {} names countedClass = .ok p := by
    cases names
    subst henclosing
    exact ⟨_, rfl⟩
  obtain ⟨_, _, _, -, -, -, -, -, -, hdistinct⟩ := slots_distinct_iff hp harises hmethods
  refine ⟨names, p, hnames, hp, harises, hmethods, hdistinct.2 ⟨?_, ?_⟩⟩
  · decide
  · decide

end Proxy

end JniBindings
