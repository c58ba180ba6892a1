import JniBindings.ClassFile.Name
import JniBindings.Proofs.JavaType.MethodType
import JniBindings.Proofs.Text.Segments
/-!
# Descriptors in class files

`afterField?` and `afterMethod?` find what follows a descriptor at the front of a text. Both follow
a grammar (`afterField?_eq_some_iff`, `afterMethod?_eq_some_iff`), in which the names of classes
hold slashes and no dots. So each descriptor in a class file is, letter for letter, that of a type
or of a method type (`exists_type_of_isFieldDescriptor`, `exists_type_of_isMethodDescriptor`).
-/

namespace JniBindings.ClassFile

/-! ### Names of classes -/

/-- No character of a class name is one that a name without package must not have. -/
theorem ne_of_mem_className {name : List Char} (h : isClassName name) {c : Char} (hc : c ∈ name) :
    c ≠ '.' ∧ c ≠ ';' ∧ c ≠ '[' := by
  by_cases hslash : c = '/'
  · subst hslash
    decide
  · obtain ⟨part, hpart, hmem⟩ := Text.exists_mem_splitOn hslash hc
    have hparts := (Bool.and_eq_true_iff.1 h).1
    have hunqualified := List.all_eq_true.1 hparts part hpart
    have hall := List.all_eq_true.1 (Bool.and_eq_true_iff.1 hunqualified).2 c hmem
    simp only [Bool.and_eq_true, decide_eq_true_eq] at hall
    exact ⟨hall.1.1.1, hall.1.1.2, hall.1.2⟩

theorem ne_nil_of_isClassName {name : List Char} (h : isClassName name) : name ≠ [] := by
  rintro rfl
  revert h
  decide

/-! ### Fields -/

/-- What can stand under the levels of an array: a letter, or the name of a class. -/
inductive IsElement : List Char → Prop
  | base {c : Char} : isBaseLetter c → IsElement [c]
  | object {name : List Char} : isClassName name → IsElement ('L' :: name ++ [';'])

/-- The text of a field descriptor. -/
def IsField (s : List Char) : Prop :=
  ∃ n ≤ 255, ∃ element, IsElement element ∧ s = List.replicate n '[' ++ element

/-- The array levels at the front are only counted. -/
theorem afterField?_replicate (n : Nat) {c : Char} (hc : c ≠ '[') (rest : List Char) :
    afterField? (List.replicate n '[' ++ c :: rest)
      = if 255 < n then none else afterField? (c :: rest) := by
  have hbrackets : ∀ d ∈ List.replicate n '[', decide (d = '[') = true := by
    intro d hd
    rw [List.eq_of_mem_replicate hd, decide_eq_true rfl]
  have htake : (c :: rest).takeWhile (· = '[') = [] := by simp [hc]
  have hdrop : (c :: rest).dropWhile (· = '[') = c :: rest := by simp [hc]
  rw [afterField?, afterField?, List.takeWhile_append_of_pos hbrackets,
    List.dropWhile_append_of_pos hbrackets, htake, hdrop, List.append_nil, List.length_replicate]
  rfl

theorem afterField?_base {c : Char} (hc : c ≠ '[' ∧ c ≠ 'L') (rest : List Char) :
    afterField? (c :: rest) = if isBaseLetter c then some rest else none := by
  simp [afterField?, hc]

theorem afterField?_object {name : List Char} (h : ';' ∉ name) (rest : List Char) :
    afterField? ('L' :: name ++ ';' :: rest) = if isClassName name then some rest else none := by
  have htake := Text.takeWhile_ne_append_cons h rest
  have hdrop := Text.dropWhile_ne_append_cons h rest
  rw [List.cons_append, afterField?, List.takeWhile_cons_of_neg (by decide),
    List.dropWhile_cons_of_neg (by decide), List.length_nil, if_neg (by decide)]
  simp only [htake, hdrop, if_true]

theorem IsElement.exists_cons {element : List Char} (h : IsElement element) :
    ∃ c rest, element = c :: rest ∧ c ≠ '[' := by
  cases h with
  | @base c hc =>
    refine ⟨c, [], rfl, ?_⟩
    rintro rfl
    exact absurd hc (by decide)
  | object hname => exact ⟨'L', _, rfl, by decide⟩

theorem afterField?_append_of_isElement {element : List Char} (h : IsElement element)
    (rest : List Char) : afterField? (element ++ rest) = some rest := by
  cases h with
  | @base c hc =>
    have hne : c ≠ '[' ∧ c ≠ 'L' := by
      constructor <;>
      · rintro rfl
        exact absurd hc (by decide)
    rw [List.singleton_append, afterField?_base hne, if_pos hc]
  | @object name hname =>
    have hsemicolon : ';' ∉ name := fun h => (ne_of_mem_className hname h).2.1 rfl
    rw [List.append_assoc, List.singleton_append, afterField?_object hsemicolon, if_pos hname]

theorem isElement_of_afterField? {c : Char} {s rest : List Char} (hc : c ≠ '[')
    (h : afterField? (c :: s) = some rest) :
    ∃ element, IsElement element ∧ c :: s = element ++ rest := by
  by_cases hobject : c = 'L'
  · subst hobject
    have hsplit := List.takeWhile_append_dropWhile (p := (· ≠ ';')) (l := s)
    cases hdrop : s.dropWhile (· ≠ ';') with
    | nil =>
      have hnone : afterField? ('L' :: s) = none := by
        rw [afterField?, List.takeWhile_cons_of_neg (by decide),
          List.dropWhile_cons_of_neg (by decide), List.length_nil, if_neg (by decide)]
        simp only [hdrop, if_true]
      rw [hnone] at h
      cases h
    | cons d after =>
      have hd : d = ';' := by
        have hhead := List.head?_dropWhile_not (fun x => decide (x ≠ ';')) s
        rw [hdrop] at hhead
        simpa using hhead
      rw [hdrop, hd] at hsplit
      rw [← hsplit, ← List.cons_append, afterField?_object (Text.not_mem_takeWhile_ne ';' s)] at h
      split_ifs at h with hname
      obtain rfl := Option.some.inj h
      exact ⟨_, .object hname, by rw [List.append_assoc, List.singleton_append, List.cons_append,
        hsplit]⟩
  · rw [afterField?_base ⟨hc, hobject⟩] at h
    split_ifs at h with hbase
    obtain rfl := Option.some.inj h
    exact ⟨[c], .base hbase, rfl⟩

theorem afterField?_append {front : List Char} (h : IsField front) (rest : List Char) :
    afterField? (front ++ rest) = some rest := by
  obtain ⟨n, hn, element, helement, rfl⟩ := h
  have hlast := afterField?_append_of_isElement helement rest
  obtain ⟨c, tail, rfl, hc⟩ := helement.exists_cons
  rw [List.append_assoc, List.cons_append, afterField?_replicate n hc, if_neg (Nat.not_lt.2 hn)]
  exact hlast

theorem afterField?_eq_some_iff {s rest : List Char} :
    afterField? s = some rest ↔ ∃ front, IsField front ∧ s = front ++ rest := by
  constructor
  · intro h
    have hsplit := List.takeWhile_append_dropWhile (p := (· = '[')) (l := s)
    have hbrackets : s.takeWhile (· = '[') = List.replicate (s.takeWhile (· = '[')).length '[' := by
      refine List.eq_replicate_of_mem fun c hc => ?_
      simpa using List.all_eq_true.1 List.all_takeWhile c hc
    rw [hbrackets] at hsplit
    cases hdrop : s.dropWhile (· = '[') with
    | nil =>
      rw [afterField?, hdrop] at h
      split_ifs at h
    | cons c tail =>
      have hc : c ≠ '[' := by
        have hhead := List.head?_dropWhile_not (fun x => decide (x = '[')) s
        rw [hdrop] at hhead
        simpa using hhead
      rw [hdrop] at hsplit
      rw [← hsplit, afterField?_replicate _ hc] at h
      split_ifs at h with hlevels
      obtain ⟨element, helement, htail⟩ := isElement_of_afterField? hc h
      refine ⟨_, ⟨_, Nat.not_lt.1 hlevels, element, helement, rfl⟩, ?_⟩
      rw [List.append_assoc, ← htail, hsplit]
  · rintro ⟨front, hfront, rfl⟩
    exact afterField?_append hfront rest

/-! ### Methods -/

theorem afterParameters?_of_afterField? {s rest : List Char} (h : afterField? s = some rest) :
    afterParameters? s = afterParameters? rest := by
  rw [afterParameters?.eq_def]
  split
  · rw [afterField?_base (by decide), if_neg (by decide)] at h
    cases h
  · split
    · next hs =>
      rw [h] at hs
      rw [Option.some.inj hs]
    · next hs =>
      rw [h] at hs
      cases hs

theorem afterParameters?_eq_some_iff {s rest : List Char} :
    afterParameters? s = some rest ↔ ∃ fields : List (List Char),
      (∀ f ∈ fields, IsField f) ∧ s = fields.flatten ++ ')' :: rest := by
  constructor
  · intro h
    fun_induction afterParameters? s with
    | case1 rest' =>
      obtain rfl := Option.some.inj h
      exact ⟨[], nofun, rfl⟩
    | case2 s _ rest' hs _ ih =>
      obtain ⟨first, hfirst, rfl⟩ := afterField?_eq_some_iff.1 hs
      obtain ⟨fields, hfields, rfl⟩ := ih h
      exact ⟨first :: fields, List.forall_mem_cons.2 ⟨hfirst, hfields⟩, by simp⟩
    | case3 => cases h
  · rintro ⟨fields, hfields, rfl⟩
    induction fields with
    | nil => rw [List.flatten_nil, List.nil_append, afterParameters?]
    | cons first fields ih =>
      obtain ⟨hfirst, hfields⟩ := List.forall_mem_cons.1 hfields
      rw [List.flatten_cons, List.append_assoc,
        afterParameters?_of_afterField? (afterField?_append hfirst _)]
      exact ih hfields

/-- The text of the result in a method descriptor, with what follows it. -/
def IsResult (result rest : List Char) : Prop :=
  IsField result ∨ (result = ['V'] ∧ rest = [])

theorem afterMethod?_eq_some_iff {s rest : List Char} :
    afterMethod? s = some rest ↔ ∃ (fields : List (List Char)) (result : List Char),
      (∀ f ∈ fields, IsField f) ∧ IsResult result rest
        ∧ s = '(' :: fields.flatten ++ ')' :: (result ++ rest) := by
  constructor
  · intro h
    rw [afterMethod?.eq_def] at h
    split at h
    · next inner =>
      obtain ⟨back, hback, hresult⟩ := Option.bind_eq_some_iff.1 h
      obtain ⟨fields, hfields, rfl⟩ := afterParameters?_eq_some_iff.1 hback
      split at hresult
      · obtain rfl := Option.some.inj hresult
        exact ⟨fields, ['V'], hfields, Or.inr ⟨rfl, rfl⟩, rfl⟩
      · obtain ⟨result, hfield, rfl⟩ := afterField?_eq_some_iff.1 hresult
        exact ⟨fields, result, hfields, Or.inl hfield, rfl⟩
    · cases h
  · rintro ⟨fields, result, hfields, hresult, rfl⟩
    rw [List.cons_append, afterMethod?]
    refine Option.bind_eq_some_iff.2
      ⟨result ++ rest, afterParameters?_eq_some_iff.2 ⟨fields, hfields, rfl⟩, ?_⟩
    rcases hresult with hresult | ⟨rfl, rfl⟩
    · have hafter := afterField?_append hresult rest
      split
      · next hvoid =>
        rw [hvoid] at hafter
        exact absurd hafter (by simp [afterField?_base, isBaseLetter])
      · exact hafter
    · rfl

/-! ### Types -/

theorem exists_primitive_of_isBaseLetter {c : Char} (h : isBaseLetter c) :
    ∃ p : Primitive, p.letter = c := by
  have hletters : "BCDFIJSZ".toList = [Primitive.byte, .char, .double, .float, .int, .long, .short,
      .boolean].map Primitive.letter := by simp [Primitive.letter]
  rw [isBaseLetter, hletters, List.contains_iff_mem] at h
  obtain ⟨p, -, hp⟩ := List.mem_map.1 h
  exact ⟨p, hp⟩

/-- A class name in a descriptor is that of a class with dots for the slashes. -/
theorem isDescribed_of_isClassName {name : List Char} (h : isClassName name) :
    JavaType.IsDescribed (Text.replaceChar '/' '.' (String.ofList name)) := by
  have hmem : ∀ c, c ≠ '.' → c ∈ (Text.replaceChar '/' '.' (String.ofList name)).toList →
      c ≠ '/' ∧ c ∈ name := by
    intro c hdot hc
    rw [JavaType.toList_replaceChar, String.toList_ofList, List.mem_map] at hc
    obtain ⟨d, hd, hdc⟩ := hc
    split_ifs at hdc with hslash
    · exact absurd hdc.symm hdot
    · subst hdc
      exact ⟨hslash, hd⟩
  refine ⟨?_, fun hc => (hmem '/' (by decide) hc).1 rfl, fun hc => ?_⟩
  · rw [JavaType.toList_replaceChar, String.toList_ofList]
    simpa using ne_nil_of_isClassName h
  · exact (ne_of_mem_className h (hmem ';' (by decide) hc).2).2.1 rfl

theorem exists_type_of_isElement {element : List Char} (h : IsElement element) :
    ∃ t : JavaType, t.HasNames JavaType.IsDescribed ∧ t.descriptorChars = element := by
  cases h with
  | @base c hc =>
    obtain ⟨p, rfl⟩ := exists_primitive_of_isBaseLetter hc
    exact ⟨.primitive p, trivial, rfl⟩
  | @object name hname =>
    refine ⟨.declared _, isDescribed_of_isClassName hname, ?_⟩
    have hdot : '.' ∉ (String.ofList name).toList := by
      rw [String.toList_ofList]
      exact fun h => (ne_of_mem_className hname h).1 rfl
    rw [JavaType.descriptorChars, JavaType.replaceChar_replaceChar hdot, String.toList_ofList]

theorem exists_type_of_isField {s : List Char} (h : IsField s) :
    ∃ t : JavaType, t.HasNames JavaType.IsDescribed ∧ t.descriptorChars = s := by
  obtain ⟨n, -, element, helement, rfl⟩ := h
  induction n with
  | zero => exact exists_type_of_isElement helement
  | succ n ih =>
    obtain ⟨t, ht, hchars⟩ := ih
    refine ⟨.array t, ht, ?_⟩
    rw [JavaType.descriptorChars, hchars, List.replicate_succ, List.cons_append]

theorem exists_types_of_isField {fields : List (List Char)} (h : ∀ f ∈ fields, IsField f) :
    ∃ ts : List JavaType, (∀ t ∈ ts, t.HasNames JavaType.IsDescribed)
      ∧ ts.flatMap JavaType.descriptorChars = fields.flatten := by
  induction fields with
  | nil => exact ⟨[], nofun, rfl⟩
  | cons first fields ih =>
    obtain ⟨hfirst, hfields⟩ := List.forall_mem_cons.1 h
    obtain ⟨t, ht, rfl⟩ := exists_type_of_isField hfirst
    obtain ⟨ts, hts, hchars⟩ := ih hfields
    exact ⟨t :: ts, List.forall_mem_cons.2 ⟨ht, hts⟩, by rw [List.flatMap_cons, hchars,
      List.flatten_cons]⟩

/-- A field descriptor is that of a type. -/
theorem exists_type_of_isFieldDescriptor {text : String} (h : isFieldDescriptor text) :
    ∃ t : JavaType, t.HasNames JavaType.IsDescribed ∧ t.descriptor = .ok text := by
  obtain ⟨s, hs, htext⟩ := afterField?_eq_some_iff.1 (of_decide_eq_true h)
  obtain ⟨t, ht, rfl⟩ := exists_type_of_isField hs
  refine ⟨t, ht, ?_⟩
  rw [JavaType.descriptor, if_pos (JavaType.isDescribable_of_hasNames ht),
    ← t.descriptorChars.append_nil, ← htext, String.ofList_toList]

/-- A method descriptor is that of a method type. -/
theorem exists_type_of_isMethodDescriptor {text : String} (h : isMethodDescriptor text) :
    ∃ m : MethodType, m.HasNames JavaType.IsDescribed ∧ m.descriptor = .ok text := by
  obtain ⟨fields, result, hfields, hresult, htext⟩ :=
    afterMethod?_eq_some_iff.1 (of_decide_eq_true h)
  obtain ⟨ts, hts, hchars⟩ := exists_types_of_isField hfields
  have htype : ∃ t : JavaType, t.HasNames JavaType.IsDescribed ∧ t.descriptorChars = result := by
    rcases hresult with hresult | ⟨rfl, -⟩
    · exact exists_type_of_isField hresult
    · exact ⟨.void, trivial, rfl⟩
  obtain ⟨t, ht, rfl⟩ := htype
  have hm : MethodType.HasNames JavaType.IsDescribed ⟨ts, t⟩ := ⟨hts, ht⟩
  refine ⟨⟨ts, t⟩, hm, ?_⟩
  rw [MethodType.descriptor_of_hasNames hm, MethodType.descriptorChars, hchars,
    ← t.descriptorChars.append_nil, ← htext, String.ofList_toList]

end JniBindings.ClassFile
