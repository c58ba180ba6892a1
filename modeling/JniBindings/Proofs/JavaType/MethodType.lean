import JniBindings.Proofs.JavaType.Descriptor
import JniBindings.Proofs.Outcome
/-!
# Round trips of method descriptors

Writing and reading the descriptor of a method undo each other. What is written is read back, for
types whose classes have names that can stand in a descriptor (`ofDescriptor_descriptor`). What is
read is written again with slashes where it may have had dots, since a reader takes both for the
separator of packages (`descriptor_of_ofDescriptor`).
-/

namespace JniBindings

/-- A character of a descriptor that has been read, as it is written. -/
def slashed (c : Char) : Char := if c = '.' then '/' else c

theorem ofList_map_slashed (d : String) :
    String.ofList (d.toList.map slashed) = Text.replaceChar '.' '/' d := rfl

theorem slashed_dotted (c : Char) : slashed (if c = '/' then '.' else c) = slashed c := by
  by_cases h : c = '/'
  · subst h
    rfl
  · rw [if_neg h]

theorem faultIn_complete_eq_ok_iff {α : Type} {kind : TypeText} {text : String}
    {x : Except Stop (α × List Char)} {a : α} :
    faultIn kind text (complete x) = .ok a ↔ x = .ok (a, []) := by
  rcases x with stop | ⟨b, _ | ⟨c, rest⟩⟩ <;> simp [complete, faultIn]

namespace JavaType

/-! ### What a reader has taken -/

/-- The text that was taken for a type is its descriptor, apart from dots. -/
structure Taken (t : JavaType) (front : List Char) : Prop where
  describable : t.isDescribable
  chars : t.descriptorChars = front.map slashed

theorem Taken.array {t : JavaType} {front : List Char} (h : t.Taken front) :
    (JavaType.array t).Taken ('[' :: front) where
  describable := h.describable
  chars := by
    rw [descriptorChars, h.chars]
    rfl

theorem taken_letter (p : Primitive) : (primitive p).Taken [p.letter] where
  describable := rfl
  chars := by cases p <;> rfl

theorem taken_declared (name : List Char) :
    (declared (Text.replaceChar '/' '.' (String.ofList name))).Taken ('L' :: name ++ [';']) where
  describable := rfl
  chars := by
    simp only [descriptorChars, toList_replaceChar, String.toList_ofList, List.map_map,
      List.map_append, List.map_cons, List.map_nil, List.cons_append]
    congr 2
    exact List.map_congr_left fun c _ => slashed_dotted c

theorem letter_of_ofLetter? {c : Char} {p : Primitive} (h : Primitive.ofLetter? c = some p) :
    p.letter = c := by
  simpa using List.find?_some h

theorem taken_of_readClassName {s rest : List Char} {t : JavaType}
    (h : readClassName s = .ok (t, rest)) : ∃ front, 'L' :: s = front ++ rest ∧ t.Taken front := by
  have hs := List.takeWhile_append_dropWhile (p := (· ≠ ';')) (l := s)
  rw [readClassName] at h
  split at h
  · cases h
  · next c after hdrop =>
    split at h
    · cases h
    · obtain ⟨rfl, rfl⟩ := Prod.mk.inj (Except.ok.inj h)
      refine ⟨_, ?_, taken_declared (s.takeWhile (· ≠ ';'))⟩
      have hc : c = ';' := by
        have hhead := List.head?_dropWhile_not (fun x => decide (x ≠ ';')) s
        rw [hdrop] at hhead
        simpa using hhead
      rw [hdrop, hc] at hs
      rw [List.cons_append, List.cons_append, List.append_assoc]
      exact congrArg ('L' :: ·) hs.symm

/-- A reader takes a descriptor from the front of a text and leaves the rest. -/
theorem taken_of_read {s rest : List Char} {t : JavaType} (h : read s = .ok (t, rest)) :
    ∃ front, s = front ++ rest ∧ t.Taken front := by
  fun_induction read s generalizing t rest with
  | case1 => cases h
  | case2 s ih =>
    obtain ⟨⟨component, rest'⟩, hread, h⟩ := bind_eq_ok_iff.1 h
    obtain ⟨rfl, rfl⟩ := Prod.mk.inj (Except.ok.inj h)
    obtain ⟨front, rfl, hfront⟩ := ih hread
    exact ⟨'[' :: front, rfl, hfront.array⟩
  | case3 s => exact taken_of_readClassName h
  | case4 c s _ _ p hp =>
    obtain ⟨rfl, rfl⟩ := Prod.mk.inj (Except.ok.inj h)
    obtain rfl := letter_of_ofLetter? hp
    exact ⟨_, rfl, taken_letter p⟩
  | case5 => cases h

/-- The texts that were taken for several types stand one after the other. -/
theorem taken_of_readMany {s rest : List Char} {ts : List JavaType}
    (h : readMany s = .ok (ts, rest)) :
    ∃ front, s = front ++ rest ∧ ts.all isDescribable
      ∧ ts.flatMap descriptorChars = front.map slashed := by
  fun_induction readMany s generalizing ts rest with
  | case1 =>
    obtain ⟨rfl, rfl⟩ := Prod.mk.inj (Except.ok.inj h)
    exact ⟨[], rfl, rfl, rfl⟩
  | case2 => cases h
  | case3 => cases h
  | case4 c s _ t rest' hread ts' rest'' hmany ih =>
    obtain ⟨rfl, rfl⟩ := Prod.mk.inj (Except.ok.inj h)
    obtain ⟨front, hs, hfront⟩ := taken_of_read hread
    obtain ⟨fronts, rfl, hall, hfronts⟩ := ih hmany
    refine ⟨front ++ fronts, by rw [hs, List.append_assoc], ?_, ?_⟩
    · simp [hfront.describable, hall]
    · rw [List.flatMap_cons, hfront.chars, hfronts, List.map_append]
  | case5 c s =>
    obtain ⟨rfl, rfl⟩ := Prod.mk.inj (Except.ok.inj h)
    exact ⟨[], rfl, rfl, rfl⟩

end JavaType

namespace MethodType

/-- The types are not made from that of `null`, and the names of classes have a given property. -/
structure HasNames (p : String → Prop) (m : MethodType) : Prop where
  parameters : ∀ t ∈ m.parameters, t.HasNames p
  result : m.result.HasNames p

/-- The characters of a descriptor. -/
def descriptorChars (m : MethodType) : List Char :=
  '(' :: m.parameters.flatMap JavaType.descriptorChars ++ ')' :: m.result.descriptorChars

theorem descriptor_of_isDescribable {m : MethodType} (hp : m.parameters.all JavaType.isDescribable)
    (hr : m.result.isDescribable) : m.descriptor = .ok (String.ofList m.descriptorChars) := by
  rw [descriptor, JavaType.listDescriptor, if_pos hp, JavaType.descriptor, if_pos hr]
  refine congrArg Except.ok (String.toList_inj.1 ?_)
  simp [descriptorChars]

theorem descriptor_of_hasNames {p : String → Prop} {m : MethodType} (h : m.HasNames p) :
    m.descriptor = .ok (String.ofList m.descriptorChars) :=
  descriptor_of_isDescribable
    (List.all_eq_true.2 fun t ht => JavaType.isDescribable_of_hasNames (h.parameters t ht))
    (JavaType.isDescribable_of_hasNames h.result)

theorem read_eq_ok_iff {s rest : List Char} {m : MethodType} :
    read s = .ok (m, rest) ↔ ∃ inner back, s = '(' :: inner
      ∧ JavaType.readMany inner = .ok (m.parameters, ')' :: back)
      ∧ JavaType.read back = .ok (m.result, rest) := by
  constructor
  · intro h
    rcases s with _ | ⟨c, inner⟩
    · cases h
    · rw [read] at h
      split_ifs at h with hopen
      obtain ⟨⟨parameters, _ | ⟨d, back⟩⟩, hmany, hclosed⟩ := bind_eq_ok_iff.1 h
      · cases hclosed
      · dsimp only at hclosed
        split_ifs at hclosed with hclose
        obtain ⟨⟨result, rest'⟩, hread, hm⟩ := bind_eq_ok_iff.1 hclosed
        obtain ⟨rfl, rfl⟩ := Prod.mk.inj (Except.ok.inj hm)
        obtain rfl := not_not.1 hopen
        obtain rfl := not_not.1 hclose
        exact ⟨inner, back, rfl, hmany, hread⟩
  · rintro ⟨inner, back, rfl, hmany, hread⟩
    rw [read, if_neg (by decide), bind_eq_ok_iff]
    refine ⟨_, hmany, ?_⟩
    dsimp only
    rw [if_neg (by decide), bind_eq_ok_iff]
    exact ⟨_, hread, rfl⟩

/-! ### Reading what has been written -/

theorem read_descriptorChars {m : MethodType} (h : m.HasNames JavaType.IsDescribed) :
    read m.descriptorChars = .ok (m, []) := by
  have hmany : JavaType.readMany (m.parameters.flatMap JavaType.descriptorChars
      ++ ')' :: m.result.descriptorChars) = .ok (m.parameters, ')' :: m.result.descriptorChars) :=
    JavaType.readMany_descriptorChars_append h.parameters (by rintro c ⟨⟩; decide)
  have hresult := JavaType.read_descriptorChars_append h.result []
  rw [List.append_nil] at hresult
  exact read_eq_ok_iff.2 ⟨_, _, rfl, hmany, hresult⟩

theorem ofDescriptor_descriptor {m : MethodType} (h : m.HasNames JavaType.IsDescribed) {d : String}
    (hd : m.descriptor = .ok d) : ofDescriptor d = .ok m := by
  rw [descriptor_of_hasNames h] at hd
  obtain rfl := Except.ok.inj hd
  rw [ofDescriptor, faultIn_complete_eq_ok_iff, String.toList_ofList]
  exact read_descriptorChars h

/-! ### Writing what has been read -/

theorem descriptor_of_read {s : List Char} {m : MethodType} (h : read s = .ok (m, [])) :
    m.descriptor = .ok (String.ofList (s.map slashed)) := by
  obtain ⟨inner, back, rfl, hmany, hread⟩ := read_eq_ok_iff.1 h
  obtain ⟨front, rfl, hall, hfront⟩ := JavaType.taken_of_readMany hmany
  obtain ⟨last, rfl, hlast⟩ := JavaType.taken_of_read hread
  rw [descriptor_of_isDescribable hall hlast.describable, descriptorChars, hfront, hlast.chars]
  simp [slashed]

theorem descriptor_of_ofDescriptor {d : String} {m : MethodType} (h : ofDescriptor d = .ok m) :
    m.descriptor = .ok (Text.replaceChar '.' '/' d) := by
  rw [← ofList_map_slashed]
  exact descriptor_of_read (faultIn_complete_eq_ok_iff.1 h)

/-- Method descriptors are read back as they were written and written as they were read, with a
slash for every dot. So the parameters of a method can be told from their descriptors alone. -/
theorem descriptor_round_trip :
    (∀ m : MethodType, m.HasNames JavaType.IsDescribed →
      ∃ d, m.descriptor = .ok d ∧ ofDescriptor d = .ok m)
    ∧ (∀ (d : String) (m : MethodType), ofDescriptor d = .ok m →
      m.descriptor = .ok (Text.replaceChar '.' '/' d))
    ∧ ∀ ts us : List JavaType, (∀ t ∈ ts, t.HasNames JavaType.IsDescribed) →
      (∀ u ∈ us, u.HasNames JavaType.IsDescribed) →
      ∃ d e, JavaType.listDescriptor ts = .ok d ∧ JavaType.listDescriptor us = .ok e
        ∧ (d = e → ts = us) := by
  refine ⟨fun m hm => ?_, fun d m h => descriptor_of_ofDescriptor h, fun ts us hts hus => ?_⟩
  · have hd := descriptor_of_hasNames hm
    exact ⟨_, hd, ofDescriptor_descriptor hm hd⟩
  · refine ⟨_, _, JavaType.listDescriptor_of_hasNames hts, JavaType.listDescriptor_of_hasNames hus,
      fun h => ?_⟩
    exact JavaType.eq_of_flatMap_descriptorChars_eq hts hus (String.ofList_injective h)

theorem descriptor_round_trip_arrays :
    HasNames JavaType.IsDescribed ⟨[.array (.array (.primitive .int)), .declared "a.B"], .void⟩
      ∧ (∃ d, descriptor ⟨[.array (.array (.primitive .int)), .declared "a.B"], .void⟩ = .ok d
        ∧ ofDescriptor d
          = .ok ⟨[.array (.array (.primitive .int)), .declared "a.B"], .void⟩)
      ∧ ofDescriptor "([La.b/C;)V" = .ok ⟨[.array (.declared "a.b.C")], .void⟩
      ∧ descriptor ⟨[.array (.declared "a.b.C")], .void⟩ = .ok "([La/b/C;)V"
      ∧ ∃ d e, JavaType.listDescriptor [.array (.primitive .int), .primitive .int] = .ok d
        ∧ JavaType.listDescriptor [.primitive .int, .array (.primitive .int)] = .ok e ∧ d ≠ e := by
  obtain ⟨hwritten, hread, hlist⟩ := descriptor_round_trip
  have hname : JavaType.IsDescribed "a.B" := ⟨by simp, by simp, by simp⟩
  have hnames : HasNames JavaType.IsDescribed
      ⟨[.array (.array (.primitive .int)), .declared "a.B"], .void⟩ :=
    ⟨by simp [JavaType.HasNames, hname], trivial⟩
  have hparse : ofDescriptor "([La.b/C;)V" = .ok ⟨[.array (.declared "a.b.C")], .void⟩ := by
    rw [ofDescriptor, faultIn_complete_eq_ok_iff]
    decide +kernel
  have hslash : Text.replaceChar '.' '/' "([La.b/C;)V" = "([La/b/C;)V" := rfl
  obtain ⟨d, e, hd, he, hde⟩ := hlist [.array (.primitive .int), .primitive .int]
    [.primitive .int, .array (.primitive .int)] (by simp [JavaType.HasNames])
    (by simp [JavaType.HasNames])
  exact ⟨hnames, hwritten _ hnames, hparse, hslash ▸ hread _ _ hparse, d, e, hd, he,
    fun h => absurd (hde h) (by decide)⟩

end MethodType

end JniBindings
