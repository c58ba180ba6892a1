import JniBindings.Proofs.ClassFile.Descriptor
import JniBindings.Proofs.JavaType.Spelling
/-!
# Types that the virtual machine can represent

A descriptor is written for every type that is not made from that of `null`. The virtual machine
takes it for the descriptor of a field or a parameter only if the type has at most 255 array levels
and is made from a primitive type other than `void` or from a class no segment of whose name is
empty (`isFieldDescriptor_iff`). The result of a method may also be `void` itself, but no array of
it (`isMethodDescriptor_iff`).
-/

namespace JniBindings

namespace JavaType

/-- What can stand under the levels of an array: a primitive type other than `void`, or a class no
segment of whose name is empty. -/
def isRepresentableElement : JavaType → Bool
  | primitive p => p ≠ .void
  | declared name => (Text.splitOn '.' name.toList).all fun segment => !segment.isEmpty
  | _ => false

/-- The virtual machine can represent the type as that of a field or a parameter. -/
def isRepresentable (t : JavaType) : Bool :=
  t.dimensions ≤ 255 && t.element.isRepresentableElement

theorem isArray_element (t : JavaType) : t.element.isArray = false := by
  induction t with
  | array component ih => exact ih
  | _ => rfl

theorem hasNames_element {p : String → Prop} {t : JavaType} (h : t.HasNames p) :
    t.element.HasNames p := by
  induction t with
  | array component ih => exact ih h
  | _ => exact h

theorem exists_cons_of_not_isArray {p : String → Prop} {t : JavaType} (ht : t.HasNames p)
    (harray : t.isArray = false) : ∃ c tail, t.descriptorChars = c :: tail ∧ c ≠ '[' := by
  cases t with
  | primitive p => exact ⟨p.letter, [], rfl, by cases p <;> decide⟩
  | declared name => exact ⟨'L', _, rfl, by decide⟩
  | array => cases harray
  | null => exact ht.elim

theorem descriptorChars_eq (t : JavaType) :
    t.descriptorChars = List.replicate t.dimensions '[' ++ t.element.descriptorChars := by
  induction t with
  | array component ih =>
    rw [descriptorChars, ih, dimensions, element, List.replicate_succ, List.cons_append]
  | _ => rfl

end JavaType

namespace ClassFile

open JavaType (descriptorChars)

/-! ### Fields -/

/-- The segments of a name are those of the name in a descriptor. -/
theorem isClassName_replaceChar {name : String} (h : IsNameText name) :
    isClassName (Text.replaceChar '.' '/' name).toList
      = (Text.splitOn '.' name.toList).all fun segment => !segment.isEmpty := by
  have hslash : '/' ∉ name.toList := fun hc => (ne_of_isNameChar (h _ hc)).1 rfl
  have hangles : lacksAngles (Text.replaceChar '.' '/' name).toList := by
    rw [lacksAngles, JavaType.toList_replaceChar, List.all_map, List.all_eq_true]
    intro c hc
    obtain ⟨-, -, -, hopen, hclose⟩ := ne_of_isNameChar (h c hc)
    by_cases hdot : c = '.'
    · simp [hdot]
    · simp [hdot, hopen, hclose]
  rw [isClassName, hangles, Bool.and_true, isBinaryName, JavaType.toList_replaceChar,
    Text.splitOn_map hslash, Bool.eq_iff_iff, List.all_eq_true, List.all_eq_true]
  refine forall₂_congr fun segment hsegment => ?_
  have hall : segment.all (fun c => c ≠ '.' && c ≠ ';' && c ≠ '[' && c ≠ '/') := by
    rw [List.all_eq_true]
    intro c hc
    obtain ⟨hdot, hmem⟩ := Text.of_mem_splitOn hsegment hc
    obtain ⟨hslash, hsemicolon, hbracket, -, -⟩ := ne_of_isNameChar (h c hmem)
    simp [hdot, hslash, hsemicolon, hbracket]
  rw [isUnqualified, hall, Bool.and_true]

theorem afterField?_element {t : JavaType} (ht : t.HasNames IsNameText) (harray : t.isArray = false)
    (rest : List Char) :
    afterField? (t.descriptorChars ++ rest)
      = if t.isRepresentableElement then some rest else none := by
  cases t with
  | primitive p =>
    have hletter : p.letter ≠ '[' ∧ p.letter ≠ 'L'
        ∧ isBaseLetter p.letter = decide (p ≠ .void) := by
      cases p <;> decide
    rw [descriptorChars, List.singleton_append, afterField?_base ⟨hletter.1, hletter.2.1⟩,
      hletter.2.2]
    rfl
  | declared name =>
    have hsemicolon : ';' ∉ (Text.replaceChar '.' '/' name).toList :=
      JavaType.semicolon_not_mem_replaceChar fun hc => (ne_of_isNameChar (ht _ hc)).2.1 rfl
    rw [descriptorChars, List.append_assoc, List.singleton_append, afterField?_object hsemicolon,
      isClassName_replaceChar ht]
    rfl
  | array => cases harray
  | null => exact ht.elim

/-- The descriptor at the front of a text is taken if its type can be represented. -/
theorem afterField?_descriptorChars {t : JavaType} (ht : t.HasNames IsNameText)
    (rest : List Char) :
    afterField? (t.descriptorChars ++ rest) = if t.isRepresentable then some rest else none := by
  have helement := JavaType.hasNames_element ht
  have hafter := afterField?_element helement t.isArray_element rest
  obtain ⟨c, tail, hchars, hc⟩ := JavaType.exists_cons_of_not_isArray helement t.isArray_element
  rw [hchars, List.cons_append] at hafter
  rw [JavaType.descriptorChars_eq, hchars, List.append_assoc, List.cons_append,
    afterField?_replicate _ hc, hafter, JavaType.isRepresentable]
  by_cases hlevels : 255 < t.dimensions
  · simp [hlevels, Nat.not_le.2 hlevels]
  · simp [hlevels, Nat.not_lt.1 hlevels]

theorem isFieldDescriptor_iff {t : JavaType} (ht : t.HasNames IsNameText) {d : String}
    (hd : t.descriptor = .ok d) : isFieldDescriptor d ↔ t.isRepresentable := by
  rw [JavaType.descriptor, if_pos (JavaType.isDescribable_of_hasNames ht)] at hd
  obtain rfl := Except.ok.inj hd
  have hafter := afterField?_descriptorChars ht []
  rw [List.append_nil] at hafter
  rw [isFieldDescriptor, String.toList_ofList, hafter, decide_eq_true_eq]
  split_ifs with h
  · simp [h]
  · simp [h]

/-! ### Methods -/

/-- Parameters are taken if all of them can be represented. -/
theorem afterParameters?_flatMap {ts : List JavaType} (hts : ∀ t ∈ ts, t.HasNames IsNameText)
    (rest : List Char) :
    afterParameters? (ts.flatMap descriptorChars ++ ')' :: rest)
      = if ts.all JavaType.isRepresentable then some rest else none := by
  induction ts with
  | nil => rw [List.flatMap_nil, List.nil_append, afterParameters?, List.all_nil, if_pos rfl]
  | cons t ts ih =>
    obtain ⟨ht, hts⟩ := List.forall_mem_cons.1 hts
    have hafter := afterField?_descriptorChars ht (ts.flatMap descriptorChars ++ ')' :: rest)
    rw [List.flatMap_cons, List.append_assoc, List.all_cons]
    by_cases hrepresentable : t.isRepresentable
    · rw [if_pos hrepresentable] at hafter
      rw [afterParameters?_of_afterField? hafter, ih hts, hrepresentable, Bool.true_and]
    · rw [if_neg hrepresentable] at hafter
      rw [afterParameters?.eq_def]
      split
      · next hclose =>
        -- no descriptor begins with the bracket after the parameters
        obtain ⟨c, tail, hchars, hc⟩ := JavaType.exists_descriptorChars_cons ht
        rw [hchars, List.cons_append] at hclose
        rw [(List.cons.inj hclose).1] at hc
        exact absurd hc (by decide)
      · split
        · next h => rw [hafter] at h; cases h
        · simp [hrepresentable]

/-- The result of a method is `void` if its descriptor is that of `void`. -/
theorem eq_void_of_descriptorChars {t : JavaType} (h : t.descriptorChars = ['V']) : t = .void := by
  cases t with
  | primitive p =>
    cases p with
    | void => rfl
    | _ => exact absurd h (by decide)
  | array | declared | null => simp [descriptorChars] at h

theorem isMethodDescriptor_iff {m : MethodType} (hm : m.HasNames IsNameText) {d : String}
    (hd : m.descriptor = .ok d) :
    isMethodDescriptor d ↔ m.parameters.all JavaType.isRepresentable
      ∧ (m.result = .void ∨ m.result.isRepresentable) := by
  rw [MethodType.descriptor_of_hasNames hm] at hd
  obtain rfl := Except.ok.inj hd
  have hparameters := afterParameters?_flatMap hm.parameters m.result.descriptorChars
  have hresult := afterField?_descriptorChars hm.result []
  rw [List.append_nil] at hresult
  rw [isMethodDescriptor, String.toList_ofList, decide_eq_true_eq, MethodType.descriptorChars,
    List.cons_append, afterMethod?, hparameters]
  by_cases hall : m.parameters.all JavaType.isRepresentable
  · rw [if_pos hall, Option.bind_eq_bind, Option.bind_some]
    split
    · next hvoid => exact iff_of_true rfl ⟨hall, .inl (eq_void_of_descriptorChars hvoid)⟩
    · next hvoid =>
      have hne : m.result ≠ .void := fun h => hvoid (by rw [h]; rfl)
      rw [hresult]
      simp [hall, hne]
  · rw [if_neg hall]
    simp [hall]

end ClassFile

end JniBindings
