import JniBindings.Proofs.Proxy.Members
import JniBindings.Proofs.Symbol.Suffix
import Mathlib.Data.List.Nodup
/-!
# Names of overloaded functions

A function is called by the identifier of its method, and if it needs one it has a suffix. So
methods that differ in their names or parameters have functions of different names, if their names
stay apart as identifiers (`nodup_functionNames`).
-/

namespace JniBindings

/-! ### Identifiers -/

/-- Only the name itself is turned into an identifier without underscores. -/
theorem eq_of_identifier_eq {name word : String} (hword : '_' ∉ word.toList)
    (h : identifier name = word) : name = word := by
  subst h
  have hchars : ∀ c ∈ name.toList, identifierChar c = [c] := by
    intro c hc
    have hmem : ∀ d ∈ identifierChar c, d ∈ (identifier name).toList := by
      intro d hd
      rw [identifier, String.toList_ofList]
      exact List.mem_flatMap.2 ⟨c, hc, hd⟩
    rw [identifierChar] at hmem ⊢
    split at hmem
    · next hc => rw [if_pos hc]
    · exact absurd (hmem '_' List.mem_cons_self) hword
  rw [← String.toList_inj, identifier, String.toList_ofList]
  calc name.toList = name.toList.flatMap fun c => [c] := List.flatMap_singleton' _ |>.symm
    _ = name.toList.flatMap identifierChar := by
      rw [List.flatMap_def, List.flatMap_def, List.map_congr_left fun c hc => (hchars c hc).symm]

theorem identifier_append (s t : String) : identifier (s ++ t) = identifier s ++ identifier t := by
  rw [← String.toList_inj]
  simp [identifier]

/-! ### Resolved methods -/

theorem nodup_map_of_nodup_map {α β γ : Type} {f : α → β} {g : α → γ} {xs : List α}
    (h : (xs.map f).Nodup) (hgf : ∀ x ∈ xs, ∀ y ∈ xs, g x = g y → f x = f y) :
    (xs.map g).Nodup :=
  List.Nodup.map_on (fun x hx y hy hxy => List.inj_on_of_nodup_map h hx hy (hgf x hx y hy hxy))
    (List.Nodup.of_map f h)

/-- A name that does not occur more than once is that of one member. -/
theorem eq_of_occurrences_le_one {α : Type} {f : α → String} {xs : List α} {x y : α}
    (hx : x ∈ xs) (hy : y ∈ xs) (hxy : f x = f y) (h : occurrences (f x) (xs.map f) ≤ 1) :
    x = y := by
  induction xs with
  | nil => cases hx
  | cons z xs ih =>
    have hpos {u : α} (hu : u ∈ xs) : 0 < (xs.map f).count (f u) :=
      List.count_pos_iff.2 (List.mem_map_of_mem hu)
    rw [occurrences, List.map_cons, List.count_cons] at h
    cases hx with
    | head =>
      cases hy with
      | head => rfl
      | tail _ hy =>
        have hcount := hpos hy
        rw [beq_self_eq_true, if_pos rfl, hxy] at h
        omega
    | tail _ hx =>
      cases hy with
      | head =>
        have hcount := hpos hx
        rw [hxy, beq_self_eq_true, if_pos rfl, ← hxy] at h
        omega
      | tail _ hy => exact ih hx hy (Nat.le_trans (Nat.le_add_right _ _) h)

namespace Method

/-- The name of a method's function without its suffix. -/
def baseName (m : Method) : String :=
  if m.isConstructor then factoryName else identifier m.name

/-- The name of a method's function with a suffix. -/
def overloadName (m : Method) (enclosing : Option JavaType) : Except Failure String :=
  (m.baseName ++ ·) <$> m.overloadSuffix enclosing

variable {m n : Method} {enclosing : Option JavaType} {word : String}

theorem baseName_of_isConstructor (h : m.isConstructor) : m.baseName = factoryName := if_pos h

theorem baseName_of_not_isConstructor (h : m.isConstructor = false) :
    m.baseName = identifier m.name := by
  rw [baseName, h]
  rfl

theorem overloadName_eq_ok_iff : m.overloadName enclosing = .ok word
    ↔ ∃ s, m.overloadSuffix enclosing = .ok s ∧ word = m.baseName ++ s := by
  rw [overloadName, map_eq_ok_iff]
  exact exists_congr fun s => and_congr_right fun _ => eq_comm

theorem underscore_mem_of_overloadName (h : m.overloadName enclosing = .ok word) :
    '_' ∈ word.toList := by
  obtain ⟨s, hs, rfl⟩ := overloadName_eq_ok_iff.1 h
  obtain ⟨d, -, rfl⟩ := overloadSuffix_eq_ok_iff.1 hs
  simp

theorem eq_of_overloadName_eq
    (hm : ∀ t ∈ m.jvmParameters enclosing, t.NamesHave IsDeclaredName)
    (hn : ∀ t ∈ n.jvmParameters enclosing, t.NamesHave IsDeclaredName)
    (hmw : m.overloadName enclosing = .ok word) (hnw : n.overloadName enclosing = .ok word) :
    m.baseName = n.baseName ∧ m.jvmParameters enclosing = n.jvmParameters enclosing := by
  obtain ⟨s, hs, rfl⟩ := overloadName_eq_ok_iff.1 hmw
  obtain ⟨t, ht, hst⟩ := overloadName_eq_ok_iff.1 hnw
  exact eq_of_append_overloadSuffix_eq hm hn hs ht hst

end Method

/-- The methods whose functions have suffixes. -/
def suffixed (ms : List Method) : List Method :=
  ms.filter (·.needsSuffix (ms.map Method.name))

/-- The methods whose functions have no suffixes. -/
def unsuffixed (ms : List Method) : List Method :=
  ms.filter (!·.needsSuffix (ms.map Method.name))

/-- How the function of a resolved method gets its name. -/
def Resolved.IsNamed (enclosing : Option JavaType) (ms : List Method) (r : Resolved Method) :
    Prop :=
  (r.member ∈ unsuffixed ms ∧ r.functionName = r.member.baseName)
    ∨ (r.member ∈ suffixed ms ∧ r.member.overloadName enclosing = .ok r.functionName)

theorem resolveMethod_cases {enclosing : Option JavaType} {names : List String} {m : Method}
    {i : Nat} {r : Resolved Method} (h : resolveMethod enclosing names m i = .ok r) :
    (¬ m.needsSuffix names ∧ r = ⟨m, i, none⟩)
      ∨ (m.needsSuffix names ∧ ∃ s, m.overloadSuffix enclosing = .ok s ∧ r = ⟨m, i, some s⟩) := by
  rw [resolveMethod] at h
  split at h
  · next hneeds =>
    obtain ⟨suffix, hsuffix, hr⟩ := bind_eq_ok_iff.1 h
    obtain ⟨s, hs, rfl⟩ := map_eq_ok_iff.1 hsuffix
    exact Or.inr ⟨hneeds, s, hs, (Except.ok.inj hr).symm⟩
  · next hneeds => exact Or.inl ⟨hneeds, (Except.ok.inj h).symm⟩

theorem isNamed_of_resolveMethods {enclosing : Option JavaType} {ms : List Method}
    {rs : List (Resolved Method)} (h : resolveMethods enclosing ms = .ok rs) {r : Resolved Method}
    (hr : r ∈ rs) : r.IsNamed enclosing ms := by
  have hmem := mem_of_resolveMethods h hr
  obtain ⟨⟨m, i⟩, -, hm⟩ := exists_of_mem_mapM h hr
  rcases resolveMethod_cases hm with ⟨hneeds, rfl⟩ | ⟨hneeds, s, hs, rfl⟩
  · refine Or.inl ⟨List.mem_filter.2 ⟨hmem, ?_⟩, String.append_empty⟩
    rw [Bool.not_eq_true', Bool.eq_false_iff]
    exact hneeds
  · exact Or.inr ⟨List.mem_filter.2 ⟨hmem, hneeds⟩, Method.overloadName_eq_ok_iff.2 ⟨s, hs, rfl⟩⟩

theorem occurrences_le_one_of_mem_unsuffixed {ms : List Method} {m : Method}
    (h : m ∈ unsuffixed ms) : occurrences m.name (ms.map Method.name) ≤ 1 := by
  have hneeds := (List.mem_filter.1 h).2
  rw [Bool.not_eq_true', Method.needsSuffix, Bool.or_eq_false_iff,
    decide_eq_false_iff_not] at hneeds
  exact Nat.not_lt.1 hneeds.1

/-- Methods that differ in their names or parameters have functions of different names, if their
names stay apart as identifiers and if no method is called like an overloaded one with its
suffix. -/
theorem nodup_functionNames {enclosing : Option JavaType} {ms : List Method}
    {rs : List (Resolved Method)} (h : resolveMethods enclosing ms = .ok rs)
    (hms : (ms.map fun m => (m.name, m.jvmParameters enclosing)).Nodup)
    (htypes : ∀ m ∈ ms, ∀ t ∈ m.jvmParameters enclosing, t.NamesHave IsDeclaredName)
    (hbase : ∀ m ∈ ms, ∀ n ∈ ms, m.baseName = n.baseName → m.name = n.name)
    (hmixed : ∀ m ∈ suffixed ms, ∀ n ∈ unsuffixed ms,
      m.overloadName enclosing ≠ .ok n.baseName) :
    (rs.map Resolved.functionName).Nodup := by
  have hmembers := map_member_resolveMethods h
  rw [← hmembers, List.map_map] at hms
  refine nodup_map_of_nodup_map hms fun q hq r hr hqr => ?_
  have hqm := mem_of_resolveMethods h hq
  have hrm := mem_of_resolveMethods h hr
  show (q.member.name, _) = (r.member.name, _)
  rcases isNamed_of_resolveMethods h hq with ⟨hqu, hqn⟩ | ⟨hqs, hqn⟩ <;>
    rcases isNamed_of_resolveMethods h hr with ⟨hru, hrn⟩ | ⟨hrs, hrn⟩
  · rw [hqn, hrn] at hqr
    have hname := hbase _ hqm _ hrm hqr
    rw [eq_of_occurrences_le_one hqm hrm hname (occurrences_le_one_of_mem_unsuffixed hqu)]
  · rw [← hqr, hqn] at hrn
    exact absurd hrn (hmixed _ hrs _ hqu)
  · rw [hqr, hrn] at hqn
    exact absurd hqn (hmixed _ hqs _ hru)
  · rw [hqr] at hqn
    obtain ⟨hbases, hparameters⟩ :=
      Method.eq_of_overloadName_eq (htypes _ hqm) (htypes _ hrm) hqn hrn
    rw [hbase _ hqm _ hrm hbases, hparameters]

end JniBindings
