import JniBindings.ClassFile.Basic
import JniBindings.Proofs.ClassFile.Descriptor
/-!
# Descriptors of the members that are read

A class file is read by readers in a row, each of which takes its value from what the one before it
has left. The class that comes out of this has a name, and its fields and methods have descriptors
of their kinds (`hasDescriptors_of_parse?`).
-/

namespace JniBindings

namespace ClassFile

/-- The members have descriptors of their kinds. -/
structure HasDescriptors (file : ClassFile) : Prop where
  fields : ∀ f ∈ file.fields, isFieldDescriptor f.descriptor
  methods : ∀ m ∈ file.methods, isMethodDescriptor m.descriptor

/-! ### Readers in a row -/

section Reader

variable {α β : Type} {s rest : List UInt8}

theorem bind_eq_some_iff {read : Reader α} {f : α → Reader β} {r : β × List UInt8} :
    (read >>= f) s = some r ↔ ∃ a rest, read s = some (a, rest) ∧ f a rest = some r := by
  change (read s).bind (fun p => f p.1 p.2) = some r ↔ _
  rw [Option.bind_eq_some_iff, Prod.exists]

theorem pure_eq_some_iff {a b : α} :
    (pure a : Reader α) s = some (b, rest) ↔ a = b ∧ s = rest := by
  change some (a, s) = some (b, rest) ↔ _
  rw [Option.some.injEq, Prod.mk.injEq]

theorem present_eq_some_iff {o : Option α} {a : α} :
    present o s = some (a, rest) ↔ o = some a ∧ s = rest := by
  cases o with
  | none => simp [present]
  | some b =>
    rw [present, pure_eq_some_iff, Option.some.injEq]

/-- Each of several values has been read. -/
theorem exists_of_mem_times {read : Reader α} {n : Nat} {as : List α}
    (h : times n read s = some (as, rest)) : ∀ a ∈ as, ∃ s rest, read s = some (a, rest) := by
  induction n generalizing s rest as with
  | zero =>
    obtain ⟨rfl, -⟩ := pure_eq_some_iff.1 h
    exact nofun
  | succ n ih =>
    rw [times] at h
    obtain ⟨a, _, hread, h⟩ := bind_eq_some_iff.1 h
    obtain ⟨others, _, htimes, h⟩ := bind_eq_some_iff.1 h
    obtain ⟨rfl, -⟩ := pure_eq_some_iff.1 h
    exact List.forall_mem_cons.2 ⟨⟨s, _, hread⟩, ih htimes⟩

theorem exists_of_mem_counted {read : Reader α} {as : List α}
    (h : counted read s = some (as, rest)) : ∀ a ∈ as, ∃ s rest, read s = some (a, rest) := by
  obtain ⟨n, _, -, h⟩ := bind_eq_some_iff.1 h
  exact exists_of_mem_times h

end Reader

/-! ### Members -/

theorem before_append (front rest : List Char) :
    before (front ++ rest) rest = String.ofList front := by
  rw [before, List.length_append, Nat.add_sub_cancel, List.take_left]

/-- What is taken from the front of a text for a field descriptor is one. -/
theorem isFieldDescriptor_of_fieldDescriptor? {text d : String}
    (h : fieldDescriptor? text = some d) : isFieldDescriptor d := by
  obtain ⟨rest, hrest, rfl⟩ := Option.map_eq_some_iff.1 h
  obtain ⟨front, hfront, htext⟩ := afterField?_eq_some_iff.1 hrest
  rw [htext, before_append, isFieldDescriptor, String.toList_ofList, decide_eq_true_eq]
  exact afterField?_eq_some_iff.2 ⟨front, hfront, (List.append_nil front).symm⟩

theorem isMethodDescriptor_of_methodDescriptor? {text d : String}
    (h : methodDescriptor? text = some d) : isMethodDescriptor d := by
  obtain ⟨rest, hrest, rfl⟩ := Option.map_eq_some_iff.1 h
  obtain ⟨fields, result, hfields, hresult, htext⟩ := afterMethod?_eq_some_iff.1 hrest
  have hfront : text.toList = ('(' :: fields.flatten ++ ')' :: result) ++ rest := by
    simp [htext]
  rw [hfront, before_append, isMethodDescriptor, String.toList_ofList, decide_eq_true_eq]
  refine afterMethod?_eq_some_iff.2 ⟨fields, result, hfields, ?_, by rw [List.append_nil]⟩
  exact hresult.imp_right fun h => ⟨h.1, rfl⟩

theorem isFieldDescriptor_of_fieldInfo {pool : Pool} {s rest : List UInt8} {f : MemberInfo}
    (h : fieldInfo pool s = some (f, rest)) : isFieldDescriptor f.descriptor := by
  rw [fieldInfo] at h
  simp only [bind_eq_some_iff, present_eq_some_iff, pure_eq_some_iff] at h
  obtain ⟨_, _, -, _, _, -, _, _, -, _, _, -, d, _, ⟨hd, -⟩, _, _, -, rfl, -⟩ := h
  exact isFieldDescriptor_of_fieldDescriptor? hd

theorem isMethodDescriptor_of_methodInfo {pool : Pool} {major : Nat} {isInterface : Bool}
    {s rest : List UInt8} {m : MemberInfo}
    (h : methodInfo pool major isInterface s = some (m, rest)) :
    isMethodDescriptor m.descriptor := by
  rw [methodInfo] at h
  simp only [bind_eq_some_iff, present_eq_some_iff, pure_eq_some_iff] at h
  obtain ⟨_, _, -, _, _, -, _, _, -, d, _, ⟨hd, -⟩, _, _, -, _, _, -, rfl, -⟩ := h
  exact isMethodDescriptor_of_methodDescriptor? hd

theorem ne_empty_of_classRef {pool : Pool} {s rest : List UInt8} {name : String}
    (h : classRef pool s = some (name, rest)) : name ≠ "" := by
  rintro rfl
  rw [classRef] at h
  simp only [bind_eq_some_iff, present_eq_some_iff] at h
  obtain ⟨i, _, -, hname, -⟩ := h
  rw [Pool.className?, Option.filter_eq_some_iff] at hname
  exact absurd hname.2 (by decide)

/-- A class file that could be read has a name and descriptors of the right kinds. -/
theorem hasDescriptors_of_parse? {bytes : List UInt8} {file : ClassFile}
    (h : parse? bytes = some file) : file.HasDescriptors ∧ file.name ≠ "" := by
  have hread : ∃ rest, read bytes = some (file, rest) := by
    rw [parse?, Reader.whole?.eq_def] at h
    split at h
    · next hread =>
      obtain rfl := Option.some.inj h
      exact ⟨_, hread⟩
    · cases h
  obtain ⟨_, h⟩ := hread
  rw [read] at h
  simp only [bind_eq_some_iff, pure_eq_some_iff] at h
  obtain ⟨_, _, -, _, _, -, _, _, -, _, _, -, _, _, -, _, _, -, name, _, hname, _, _, -, _, _, -,
    fields, _, hfields, methods, _, hmethods, _, _, -, _, _, -, _, _, -, _, _, -, rfl, -⟩ := h
  refine ⟨⟨fun f hf => ?_, fun m hm => ?_⟩, ne_empty_of_classRef hname⟩
  · obtain ⟨_, _, hinfo⟩ := exists_of_mem_counted hfields f hf
    exact isFieldDescriptor_of_fieldInfo hinfo
  · obtain ⟨_, _, hinfo⟩ := exists_of_mem_counted hmethods m hm
    exact isMethodDescriptor_of_methodInfo hinfo

end ClassFile

end JniBindings
