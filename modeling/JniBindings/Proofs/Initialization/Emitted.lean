import JniBindings.Proofs.ClassNames.Identifiers
import JniBindings.Proofs.Initialization.ReadBack
import JniBindings.Proofs.Overload.Slots
/-!
# Code in the files of a proxy

The code of a proxy stands in its files (`Proxy.emits`). It can be read whenever the proxy is made
from a class, except that the text of a descriptor or the name of the function that reports errors
may not be such that they can stand where they stand (`Proxy.isReadable_of_ofModel`).
-/

namespace JniBindings

open Cpp (IsEnclosed)

namespace Proxy

variable {p : Proxy}

/-! ### Files -/

/-- The definitions in the files of a proxy are read as a program, and the state that its header
declares as members. -/
structure Emits (p : Proxy) (program : Program) (members : List StateMember) : Prop where
  defined : ∃ file ∈ p.files.files, Contains (p.definitions p.qualifier) file.content
  program : Program.ofText? (p.definitions p.qualifier) = some program
  declared : Contains p.stateText p.files.header.content
  members : StateMember.ofText? p.stateText = some members

theorem contains_definitions (p : Proxy) :
    ∃ file ∈ p.files.files, Contains (p.definitions p.qualifier) file.content := by
  cases honly : p.config.headerOnlyProxy with
  | true =>
    refine ⟨p.files.header, List.mem_cons_self, ?_⟩
    change Contains _ p.header
    unfold header
    simp only [qualifier, honly, if_true]
    exact (((Contains.refl _).before "\n").after _).before _
  | false =>
    refine ⟨⟨p.sourceName, p.source⟩, ?_, ?_⟩
    · simp [files, GeneratedClass.files, honly]
    · change Contains _ p.source
      unfold source
      simp only [qualifier, honly, Bool.false_eq_true, if_false]
      exact (((Contains.refl _).after _).before _).before _

theorem contains_stateText (p : Proxy) : Contains p.stateText p.files.header.content := by
  have hclass : Contains p.stateText p.classText := by
    unfold classText
    iterate 4 apply Contains.before
    exact (Contains.refl _).after _
  change Contains _ p.header
  unfold header
  exact ((hclass.after _).before _).before _

theorem emits (h : p.IsReadable) : p.Emits p.program p.stateMembers where
  defined := p.contains_definitions
  program := ofText?_definitions h
  declared := p.contains_stateText
  members := ofText?_stateText h

end Proxy

/-! ### Slots -/

/-- A word with an underscore, as no other member of the state is. -/
structure IsSlot (s : String) : Prop where
  word : IsWord s
  underscore : '_' ∈ s.toList

theorem isWordChar_of_mem_toString {n : Nat} {c : Char} (h : c ∈ (toString n).toList) :
    isWordChar c := by
  rw [Nat.toString_eq_repr, Nat.toList_repr] at h
  have hdigit : c.isDigit := Nat.isDigit_of_mem_toDigits (by decide) (by decide) h
  simp [isWordChar, Char.isAlphanum, hdigit]

/-- A start, a text of word characters and an index make a slot. -/
theorem isSlot_append {start rest : String} (hstart : IsSlot start)
    (hrest : ∀ c ∈ rest.toList, isWordChar c) : IsSlot (start ++ rest) where
  word := by
    refine ⟨by simp [hstart.word.1], List.all_eq_true.2 fun c hc => ?_⟩
    rw [String.toList_append, List.mem_append] at hc
    exact hc.elim (List.all_eq_true.1 hstart.word.2 c) (hrest c)
  underscore := by
    rw [String.toList_append]
    exact List.mem_append_left _ hstart.underscore

theorem isSlot_numberedSlot {start : String} (hstart : IsSlot start) (name : String) (index : Nat) :
    IsSlot (numberedSlot start name index) := by
  have hunderscore : ("_" : String).toList.all isWordChar := by decide
  rw [List.all_eq_true] at hunderscore
  exact isSlot_append (isSlot_append (isSlot_append hstart fun c => isWordChar_of_mem_identifier)
    hunderscore) fun c => isWordChar_of_mem_toString

theorem Resolved.isSlot_methodSlot (r : Resolved Method) : IsSlot r.methodSlot := by
  rw [methodSlot]
  split
  · exact isSlot_append ⟨by decide, by decide⟩ fun c => isWordChar_of_mem_toString
  · exact isSlot_numberedSlot ⟨by decide, by decide⟩ r.member.name r.index

theorem Resolved.isSlot_fieldSlot (r : Resolved Field) : IsSlot r.fieldSlot :=
  isSlot_numberedSlot ⟨by decide, by decide⟩ r.member.name r.index

namespace Proxy

variable {p : Proxy} {config : Config} {names : ClassNames} {c : ClassModel}

/-- A lookup has a slot and the escaped name of a member. -/
theorem lookup_of_ofModel (hp : ofModel config names c = .ok p) {id : Lookup}
    (hid : id ∈ p.lookups) : IsSlot id.slot ∧ IsEnclosed id.nameLiteral.toList := by
  obtain ⟨constructors, methods, h⟩ := isMadeFrom_of_ofModel hp
  have hstring (s : String) : IsEnclosed (Cpp.stringBody s).toList :=
    (Cpp.stringBody_reads_back s).2.2.1.isEnclosed
  have hconstructor : IsEnclosed constructorName.toList :=
    Cpp.isEnclosed_of_all (by decide)
  rw [lookups, List.mem_append, List.mem_append] at hid
  rcases hid with (hid | hid) | hid
  · obtain ⟨m, hm, rfl⟩ := List.mem_map.1 hid
    obtain ⟨r, -, hr⟩ := exists_of_mem_forall₂ h.constructors hm
    have hslot : IsSlot m.slot := hr.slot ▸ r.isSlot_methodSlot
    exact ⟨hslot, hconstructor⟩
  · obtain ⟨m, hm, rfl⟩ := List.mem_map.1 hid
    obtain ⟨r, -, hr⟩ := exists_of_mem_forall₂ h.methods hm
    have hslot : IsSlot m.slot := hr.slot ▸ r.isSlot_methodSlot
    exact ⟨hslot, hstring m.name⟩
  · obtain ⟨f, hf, rfl⟩ := List.mem_map.1 hid
    obtain ⟨r, -, hr⟩ := exists_of_mem_forall₂ h.fields hf
    have hslot : IsSlot f.slot := hr.slot ▸ r.isSlot_fieldSlot
    exact ⟨hslot, hstring f.name⟩

/-- Whatever class a proxy is made from, its names can be read. -/
theorem isReadable_of_ofModel (hnames : ClassNames.ofModel c = .ok names)
    (hp : ofModel config names c = .ok p)
    (hdescriptors : ∀ id ∈ p.lookups, IsEnclosed id.descriptorLiteral.toList)
    (hlogger : ∀ logger ∈ p.config.errorLogger, IsFunctionName logger) : p.IsReadable where
  proxy := by
    obtain ⟨_, _, h⟩ := isMadeFrom_of_ofModel hp
    exact h.names ▸ (ClassNames.isMadeFrom_of_ofModel hnames).isWord_proxy
  lookups id hid :=
    ⟨(lookup_of_ofModel hp hid).1.word, (lookup_of_ofModel hp hid).2, hdescriptors id hid⟩
  logger := hlogger

/-- No slot is called like the pointer for the class. -/
theorem clazz_notMem_slots_of_ofModel (hp : ofModel config names c = .ok p) :
    "sClazz" ∉ p.slots := by
  intro hmem
  obtain ⟨id, hid, hslot⟩ := List.mem_map.1 hmem
  have hunderscore := (lookup_of_ofModel hp hid).1.underscore
  rw [hslot] at hunderscore
  exact absurd hunderscore (by decide)

end Proxy

end JniBindings
