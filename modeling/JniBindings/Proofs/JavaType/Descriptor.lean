import JniBindings.JavaType.Descriptor
import JniBindings.Proofs.Text.Marker
/-!
# Reading back descriptors

A descriptor ends where its type ends, so that descriptors are read back from a text in which others
follow (`read_descriptorChars_append`, `readMany_descriptorChars_append`). This needs names of
classes that are not empty and hold neither slashes, which are written for dots, nor semicolons,
which end a name.
-/

namespace JniBindings

namespace JavaType

/-- The type is not made from that of `null`, and if it is made from a class, the name of the class
has a given property. -/
def HasNames (p : String → Prop) : JavaType → Prop
  | primitive _ => True
  | array component => component.HasNames p
  | declared name => p name
  | null => False

theorem HasNames.imp {p q : String → Prop} (h : ∀ name, p name → q name) {t : JavaType}
    (ht : t.HasNames p) : t.HasNames q := by
  induction t with
  | primitive => trivial
  | array component ih => exact ih ht
  | declared name => exact h name ht
  | null => exact ht

/-- A name that can stand in a descriptor. -/
structure IsDescribed (name : String) : Prop where
  ne_nil : name.toList ≠ []
  no_slash : '/' ∉ name.toList
  no_semicolon : ';' ∉ name.toList

theorem isDescribable_of_hasNames {p : String → Prop} {t : JavaType} (h : t.HasNames p) :
    t.isDescribable := by
  induction t with
  | primitive | declared => rfl
  | array component ih => exact ih h
  | null => exact h.elim

theorem toList_replaceChar (old new : Char) (s : String) :
    (Text.replaceChar old new s).toList = s.toList.map fun c => if c = old then new else c :=
  String.toList_ofList

/-! ### One descriptor -/

theorem replaceChar_replaceChar {old new : Char} {s : String} (h : new ∉ s.toList) :
    Text.replaceChar new old (Text.replaceChar old new s) = s := by
  rw [← String.toList_inj, toList_replaceChar, toList_replaceChar, List.map_map]
  refine (List.map_congr_left fun c hc => ?_).trans (List.map_id _)
  have hne : c ≠ new := fun e => h (e ▸ hc)
  by_cases hold : c = old
  · simp [hold]
  · simp [hold, hne]

theorem semicolon_not_mem_replaceChar {name : String} (h : ';' ∉ name.toList) :
    ';' ∉ (Text.replaceChar '.' '/' name).toList := by
  rw [toList_replaceChar, List.mem_map]
  rintro ⟨c, hc, hsemicolon⟩
  split at hsemicolon
  · exact absurd hsemicolon (by decide)
  · exact h (hsemicolon ▸ hc)

theorem readClassName_append {name : String} (h : IsDescribed name) (rest : List Char) :
    readClassName ((Text.replaceChar '.' '/' name).toList ++ ';' :: rest)
      = .ok (declared name, rest) := by
  have hsemicolon := semicolon_not_mem_replaceChar h.no_semicolon
  have hempty : (Text.replaceChar '.' '/' name).toList.isEmpty = false := by
    rw [toList_replaceChar]
    simp [h.ne_nil]
  rw [readClassName, Text.takeWhile_ne_append_cons hsemicolon,
    Text.dropWhile_ne_append_cons hsemicolon]
  simp only [hempty, String.ofList_toList, replaceChar_replaceChar h.no_slash]
  rfl

/-- A descriptor is read back, whatever follows it. -/
theorem read_descriptorChars_append {t : JavaType} (h : t.HasNames IsDescribed)
    (rest : List Char) : read (t.descriptorChars ++ rest) = .ok (t, rest) := by
  induction t with
  | primitive p => cases p <;> rfl
  | array component ih =>
    rw [descriptorChars, List.cons_append, read, ih h]
    rfl
  | declared name =>
    rw [descriptorChars, List.cons_append, List.cons_append, List.append_assoc, read]
    exact readClassName_append h rest
  | null => exact h.elim

/-! ### Several descriptors -/

theorem exists_descriptorChars_cons {p : String → Prop} {t : JavaType} (h : t.HasNames p) :
    ∃ c rest, t.descriptorChars = c :: rest ∧ beginsDescriptor c := by
  cases t with
  | primitive p => exact ⟨p.letter, [], rfl, by cases p <;> decide⟩
  | array component => exact ⟨'[', component.descriptorChars, rfl, by decide⟩
  | declared name => exact ⟨'L', _, rfl, by decide⟩
  | null => exact h.elim

theorem readMany_of_read {s rest : List Char} {c : Char} {t : JavaType} (hc : beginsDescriptor c)
    (h : read (c :: s) = .ok (t, rest)) :
    readMany (c :: s) = match readMany rest with
      | .error stop => .error stop
      | .ok (ts, rest) => .ok (t :: ts, rest) := by
  rw [readMany, if_pos hc]
  split
  · next h' => rw [h] at h'; cases h'
  · next h' =>
    rw [h] at h'
    obtain ⟨rfl, rfl⟩ := Prod.mk.inj (Except.ok.inj h')
    rfl

/-- Descriptors are read back up to where no further one begins. -/
theorem readMany_descriptorChars_append {ts : List JavaType}
    (h : ∀ t ∈ ts, t.HasNames IsDescribed) {rest : List Char}
    (hrest : ∀ c, rest.head? = some c → beginsDescriptor c = false) :
    readMany (ts.flatMap descriptorChars ++ rest) = .ok (ts, rest) := by
  induction ts with
  | nil =>
    cases rest with
    | nil => rw [List.flatMap_nil, List.nil_append, readMany]
    | cons c rest =>
      rw [List.flatMap_nil, List.nil_append, readMany, if_neg (by simp [hrest c rfl])]
  | cons t ts ih =>
    have ht := h t List.mem_cons_self
    obtain ⟨c, tail, hcons, hc⟩ := exists_descriptorChars_cons ht
    have hread := read_descriptorChars_append ht (ts.flatMap descriptorChars ++ rest)
    rw [hcons, List.cons_append] at hread
    rw [List.flatMap_cons, List.append_assoc, hcons, List.cons_append, readMany_of_read hc hread,
      ih fun u hu => h u (List.mem_cons_of_mem t hu)]

theorem readMany_descriptorChars {ts : List JavaType} (h : ∀ t ∈ ts, t.HasNames IsDescribed) :
    readMany (ts.flatMap descriptorChars) = .ok (ts, []) := by
  rw [← List.append_nil (ts.flatMap descriptorChars)]
  exact readMany_descriptorChars_append h (by simp)

/-- Types can be told from their descriptors, although nothing stands between these. -/
theorem eq_of_flatMap_descriptorChars_eq {ts us : List JavaType}
    (ht : ∀ t ∈ ts, t.HasNames IsDescribed) (hu : ∀ u ∈ us, u.HasNames IsDescribed)
    (h : ts.flatMap descriptorChars = us.flatMap descriptorChars) : ts = us := by
  have hts := readMany_descriptorChars ht
  rw [h, readMany_descriptorChars hu] at hts
  exact (Prod.mk.inj (Except.ok.inj hts)).1.symm

theorem listDescriptor_of_hasNames {p : String → Prop} {ts : List JavaType}
    (h : ∀ t ∈ ts, t.HasNames p) :
    listDescriptor ts = .ok (String.ofList (ts.flatMap descriptorChars)) := by
  rw [listDescriptor, if_pos]
  exact List.all_eq_true.2 fun t ht => isDescribable_of_hasNames (h t ht)

end JavaType

end JniBindings
