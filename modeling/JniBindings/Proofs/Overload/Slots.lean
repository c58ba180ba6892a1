import JniBindings.Proofs.Overload
import JniBindings.Proofs.Text.Segments
/-!
# Indices and slots of members

Members of one name are counted from zero in their order (`indices_indexed`), so that a member can
be told by its name and its index. A slot is the identifier of the name with the index after its
last underscore. So slots differ if and only if the names stay apart as identifiers
(`nodup_numberedSlots_iff`).
-/

namespace JniBindings

/-! ### Indices -/

section Indices

variable {α : Type} (name : α → String) (seen : List String) (ms : List α)

/-- The members of one name are counted one by one, starting with how many are in front of all. -/
theorem indices_indexed (word : String) :
    ((indexed name seen ms).filter (name ·.1 = word)).map Prod.snd
      = List.range' (occurrences word seen) (occurrences word (ms.map name)) := by
  induction ms generalizing seen with
  | nil => rfl
  | cons m ms ih =>
    rw [indexed, List.filter_cons, List.map_cons]
    by_cases hword : name m = word
    · subst hword
      simp [ih, occurrences, List.range'_succ]
    · simp [hword, ih, occurrences]

/-- Members can be told by their names and indices. -/
theorem nodup_indexed : ((indexed name seen ms).map fun p => (name p.1, p.2)).Nodup := by
  rw [List.nodup_iff_count_le_one]
  rintro ⟨word, index⟩
  have hcount : ((indexed name seen ms).map fun p => (name p.1, p.2)).count (word, index)
      = (((indexed name seen ms).filter (name ·.1 = word)).map Prod.snd).count index := by
    rw [List.count, List.count, List.countP_map, List.countP_map, List.countP_filter]
    exact List.countP_congr fun p _ => by simp [and_comm]
  rw [hcount, indices_indexed]
  exact List.nodup_iff_count_le_one.1 List.nodup_range' index

/-- Each name has a member of index zero. -/
theorem exists_index_zero {ms : List α} {m : α} (hm : m ∈ ms) :
    ∃ p ∈ indexed name [] ms, name p.1 = name m ∧ p.2 = 0 := by
  have hpos : 0 < occurrences (name m) (ms.map name) :=
    List.count_pos_iff.2 (List.mem_map_of_mem hm)
  have hzero : 0 ∈ List.range' (occurrences (name m) []) (occurrences (name m) (ms.map name)) :=
    List.mem_range'_1.2 ⟨Nat.le_refl _, by simpa [occurrences] using hpos⟩
  rw [← indices_indexed] at hzero
  obtain ⟨p, hp, hindex⟩ := List.mem_map.1 hzero
  obtain ⟨hp, hname⟩ := List.mem_filter.1 hp
  exact ⟨p, hp, of_decide_eq_true hname, hindex⟩

end Indices

/-! ### Texts with indices -/

/-- A text in which the identifier of a name and an index follow a given start. -/
def numberedSlot (start name : String) (index : Nat) : String :=
  start ++ identifier name ++ "_" ++ toString index

theorem underscore_not_mem_toString (n : Nat) : '_' ∉ (toString n).toList := by
  intro h
  rw [Nat.toString_eq_repr, Nat.toList_repr] at h
  exact absurd (Nat.isDigit_of_mem_toDigits (by decide) (by decide) h) (by decide)

theorem eq_of_toString_eq {i j : Nat} (h : toString i = toString j) : i = j := by
  have hvalues := congrArg (fun s => Nat.ofDigitChars 10 s.toList 0) h
  simpa [Nat.toString_eq_repr, Nat.toList_repr] using hvalues

/-- No digit is an underscore, so that the index stands behind the last one. -/
theorem numberedSlot_inj {start a b : String} {i j : Nat}
    (h : numberedSlot start a i = numberedSlot start b j) :
    identifier a = identifier b ∧ i = j := by
  rw [← String.toList_inj] at h
  have hlast : (start ++ identifier a).toList ++ '_' :: (toString i).toList
      = (start ++ identifier b).toList ++ '_' :: (toString j).toList := by
    simpa [numberedSlot] using h
  obtain ⟨hword, hindex⟩ :=
    Text.append_inj_of_last (underscore_not_mem_toString i) (underscore_not_mem_toString j) hlast
  rw [String.toList_append, String.toList_append] at hword
  exact ⟨String.toList_inj.1 (List.append_cancel_left hword),
    eq_of_toString_eq (String.toList_inj.1 hindex)⟩

theorem nodup_numberedSlots_iff {α : Type} {name : α → String} {ms : List α} (start : String) :
    ((indexed name [] ms).map fun p => numberedSlot start (name p.1) p.2).Nodup
      ↔ ∀ m ∈ ms, ∀ n ∈ ms, identifier (name m) = identifier (name n) → name m = name n := by
  constructor
  · intro h m hm n hn hmn
    -- names that become the same identifier have the same slot at index zero
    obtain ⟨p, hp, hpm, hpzero⟩ := exists_index_zero name hm
    obtain ⟨q, hq, hqn, hqzero⟩ := exists_index_zero name hn
    have hslots : numberedSlot start (name p.1) p.2 = numberedSlot start (name q.1) q.2 := by
      rw [numberedSlot, numberedSlot, hpm, hqn, hmn, hpzero, hqzero]
    rw [← hpm, List.inj_on_of_nodup_map h hp hq hslots, hqn]
  · intro h
    refine nodup_map_of_nodup_map (nodup_indexed name [] ms) fun p hp q hq hpq => ?_
    obtain ⟨hidentifier, hindex⟩ := numberedSlot_inj hpq
    rw [h p.1 (mem_of_mem_indexed hp) q.1 (mem_of_mem_indexed hq) hidentifier, hindex]

/-! ### Resolved members -/

/-- The indices of the members of each name count from zero in their order. -/
def CountFromZero {α : Type} (name : α → String) (rs : List (Resolved α)) : Prop :=
  ∀ word, (rs.filter (name ·.member = word)).map Resolved.index
    = List.range (occurrences word (rs.map (name ·.member)))

theorem countFromZero_of_map_eq {α : Type} {name : α → String} {rs : List (Resolved α)}
    {ms : List α} (h : rs.map (fun r => (r.member, r.index)) = indexed name [] ms) :
    CountFromZero name rs := by
  intro word
  have hmembers : rs.map (name ·.member) = ms.map name := by
    rw [← map_fst_indexed name [] ms, ← h, List.map_map, List.map_map]
    rfl
  have hindices := indices_indexed name [] ms word
  rw [← h, List.filter_map, List.map_map] at hindices
  rw [hmembers, List.range_eq_range']
  exact hindices

theorem map_index_resolveMethods {enclosing : Option JavaType} {ms : List Method}
    {rs : List (Resolved Method)} (h : resolveMethods enclosing ms = .ok rs) :
    rs.map (fun r => (r.member, r.index)) = indexed Method.name [] ms := by
  rw [← List.map_id (indexed Method.name [] ms), eq_comm]
  refine map_eq_map_of_forall₂ (mapM_eq_ok_iff.1 h) fun p r hr => ?_
  rcases resolveMethod_cases hr with ⟨-, rfl⟩ | ⟨-, s, -, rfl⟩ <;> rfl

theorem map_index_resolveFields (fs : List Field) :
    (resolveFields fs).map (fun r => (r.member, r.index)) = indexed Field.name [] fs := by
  rw [resolveFields, List.map_map]
  exact List.map_id _

end JniBindings
