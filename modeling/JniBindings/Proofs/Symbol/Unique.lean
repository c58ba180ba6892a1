import JniBindings.Glue.Basic
import JniBindings.Proofs.JavaType.Descriptor
import JniBindings.Proofs.Outcome
import JniBindings.Proofs.Symbol.Decode
/-!
# Symbols do not collide

The symbol of a native method is read back from left to right. Its body consists of the class, a
separator, the method and, for an overloaded method, two more separators and the descriptors of the
parameters. The first two separators side by side are those in front of the descriptors: in a dotted
name every separator is followed by the beginning of a segment, and an underscore that was part of a
segment is read as a character. The last separator before them stands between class and method.
-/

namespace JniBindings

/-! ### Names -/

/-- No segment of the name is empty or begins with a digit. -/
structure IsClassName (name : String) : Prop where
  segments : ∀ s ∈ Text.splitOn '.' name.toList, Text.StartsWith (·.isDigit = false) s
  low : ∀ c ∈ name.toList, c.toNat ≤ 0xFFFF

/-- The name of a method; dots do not matter here. -/
structure IsMethodName (name : String) : Prop where
  start : Text.StartsWith (·.isDigit = false) name.toList
  low : ∀ c ∈ name.toList, c.toNat ≤ 0xFFFF

/-- The name of a class that can stand in a descriptor. -/
structure IsDeclaredName (name : String) : Prop extends IsClassName name where
  no_slash : '/' ∉ name.toList
  no_semicolon : ';' ∉ name.toList

namespace IsDeclaredName

variable {name : String}

theorem isDescribed (h : IsDeclaredName name) : JavaType.IsDescribed name where
  ne_nil := by
    obtain ⟨c, rest, hname, -⟩ := Text.startsWith_of_splitOn h.segments
    rw [hname]
    exact List.cons_ne_nil c rest
  no_slash := h.no_slash
  no_semicolon := h.no_semicolon

theorem followed_replaceChar (h : IsDeclaredName name) :
    Text.Followed '/' (fun c => c ≠ '/' ∧ c.isDigit = false)
      (Text.replaceChar '.' '/' name).toList := by
  have hne : ∀ c ∈ name.toList, c ≠ '/' := fun c hc heq => h.no_slash (heq ▸ hc)
  have hdots : Text.Followed '.' (fun c => c ≠ '.' ∧ c ≠ '/' ∧ c.isDigit = false) name.toList :=
    (Text.followed_of_splitOn h.segments).and_mem.imp fun c hc => ⟨hc.1.1, hne c hc.2, hc.1.2⟩
  rw [JavaType.toList_replaceChar]
  exact hdots.replace hne fun _ => id

theorem low_replaceChar (h : IsDeclaredName name) :
    ∀ c ∈ (Text.replaceChar '.' '/' name).toList, c.toNat ≤ 0xFFFF := by
  rw [JavaType.toList_replaceChar]
  intro c hc
  obtain ⟨d, hd, rfl⟩ := List.mem_map.1 hc
  split
  · decide
  · exact h.low d hd

end IsDeclaredName

/-! ### Descriptors -/

namespace JavaType

theorem toNat_letter_le (p : Primitive) : p.letter.toNat ≤ 0xFFFF := by
  cases p <;> decide

theorem low_descriptorChars {t : JavaType} (h : t.HasNames IsDeclaredName) :
    ∀ c ∈ t.descriptorChars, c.toNat ≤ 0xFFFF := by
  induction t with
  | primitive p =>
    intro c hc
    obtain rfl := List.mem_singleton.1 hc
    exact toNat_letter_le p
  | array component ih =>
    intro c hc
    rcases List.mem_cons.1 hc with rfl | hc
    · decide
    · exact ih h c hc
  | declared name =>
    intro c hc
    simp only [descriptorChars, List.cons_append, List.mem_cons, List.mem_append,
      List.not_mem_nil, or_false] at hc
    rcases hc with rfl | hc | rfl
    · decide
    · exact h.low_replaceChar c hc
    · decide
  | null => exact h.elim

theorem slash_not_mem_letter (p : Primitive) : '/' ∉ [p.letter] := by
  cases p <;> decide

/-- A slash in a descriptor stands in front of a segment of a name. -/
theorem followed_descriptorChars {t : JavaType} (h : t.HasNames IsDeclaredName) :
    Text.Followed '/' (fun c => c ≠ '/' ∧ c.isDigit = false) t.descriptorChars := by
  have hchar {c : Char} (hc : '/' ∉ [c]) :
      Text.Followed '/' (fun c => c ≠ '/' ∧ c.isDigit = false) [c] :=
    Text.followed_of_not_mem hc _
  induction t with
  | primitive p => exact hchar (slash_not_mem_letter p)
  | array component ih =>
    rw [descriptorChars, ← List.singleton_append]
    exact (hchar (by decide)).append (ih h)
  | declared name =>
    rw [descriptorChars, List.cons_append, ← List.singleton_append]
    exact (hchar (by decide)).append (h.followed_replaceChar.append (hchar (by decide)))
  | null => exact h.elim

theorem low_flatMap_descriptorChars {ts : List JavaType}
    (h : ∀ t ∈ ts, t.HasNames IsDeclaredName) :
    ∀ c ∈ ts.flatMap descriptorChars, c.toNat ≤ 0xFFFF := by
  intro c hc
  obtain ⟨t, ht, hc⟩ := List.mem_flatMap.1 hc
  exact low_descriptorChars (h t ht) c hc

theorem followed_flatMap_descriptorChars {ts : List JavaType}
    (h : ∀ t ∈ ts, t.HasNames IsDeclaredName) :
    Text.Followed '/' (fun c => c ≠ '/' ∧ c.isDigit = false) (ts.flatMap descriptorChars) :=
  Text.Followed.flatMap fun t ht => followed_descriptorChars (h t ht)

theorem isDigit_eq_false_of_beginsDescriptor {c : Char} (h : beginsDescriptor c) :
    c.isDigit = false := by
  simp only [beginsDescriptor, Bool.or_eq_true, decide_eq_true_eq] at h
  rcases h with (rfl | rfl) | h
  · decide
  · decide
  · obtain ⟨p, hp⟩ := Option.isSome_iff_exists.1 h
    have hletter : p.letter = c := by simpa using List.find?_some hp
    subst hletter
    cases p <;> decide

/-- A list of descriptors does not begin with a digit. -/
theorem head_flatMap_descriptorChars {ts : List JavaType}
    (h : ∀ t ∈ ts, t.HasNames IsDeclaredName) (c : Char)
    (hc : (ts.flatMap descriptorChars).head? = some c) : c.isDigit = false := by
  cases ts with
  | nil => cases hc
  | cons t ts =>
    obtain ⟨d, rest, hd, hbegins⟩ := exists_descriptorChars_cons (h t List.mem_cons_self)
    rw [List.flatMap_cons, hd] at hc
    obtain rfl : d = c := Option.some.inj hc
    exact isDigit_eq_false_of_beginsDescriptor hbegins

end JavaType

/-! ### What a symbol says -/

/-- What a symbol says: the class and the name of a native method and, if the method is overloaded,
the types of its parameters. -/
structure NativeName where
  className : String
  methodName : String
  parameters : Option (List JavaType)
deriving DecidableEq, Repr

namespace NativeName

/-- The symbol under which the virtual machine looks up the method. -/
def symbol (n : NativeName) : Except Failure String :=
  match n.parameters with
  | none => .ok (Symbol.short (Symbol.className n.className) n.methodName)
  | some ts =>
    Symbol.long (Symbol.className n.className) n.methodName <$> JavaType.listDescriptor ts

/-- No name, and no segment of a dotted one, is empty or begins with a digit, no character is above
U+FFFF, and every parameter has a descriptor. -/
structure IsWellFormed (n : NativeName) : Prop where
  class_name : IsClassName n.className
  method_name : IsMethodName n.methodName
  types : ∀ ts, n.parameters = some ts → ∀ t ∈ ts, t.HasNames IsDeclaredName

/-- What follows the name of the method. -/
def ending : Option (List JavaType) → List Char
  | none => []
  | some ts => '_' :: '_' :: (ts.flatMap JavaType.descriptorChars).flatMap Symbol.descriptorChar

/-- The symbol without the word with which all symbols begin. -/
def body (n : NativeName) : List Char :=
  n.className.toList.flatMap Symbol.classChar
    ++ '_' :: (n.methodName.toList.flatMap Symbol.escapeChar ++ ending n.parameters)

/-- The whole symbol. -/
def chars (n : NativeName) : List Char := ['J', 'a', 'v', 'a', '_'] ++ n.body

theorem short_eq (c m : String) :
    Symbol.short (Symbol.className c) m = String.ofList (chars ⟨c, m, none⟩) := by
  rw [← String.toList_inj]
  simp [Symbol.short, Symbol.className, Symbol.escape, Symbol.write, chars, body, ending]

theorem long_eq (c m : String) (ts : List JavaType) :
    Symbol.long (Symbol.className c) m (String.ofList (ts.flatMap JavaType.descriptorChars))
      = String.ofList (chars ⟨c, m, some ts⟩) := by
  rw [← String.toList_inj, Symbol.long, short_eq]
  simp [Symbol.write, chars, body, ending]

theorem symbol_eq {n : NativeName} (h : n.IsWellFormed) :
    n.symbol = .ok (String.ofList n.chars) := by
  obtain ⟨c, m, parameters⟩ := n
  cases parameters with
  | none => exact congrArg Except.ok (short_eq c m)
  | some ts =>
    change Symbol.long (Symbol.className c) m <$> JavaType.listDescriptor ts = _
    rw [JavaType.listDescriptor_of_hasNames (h.types ts rfl)]
    exact congrArg Except.ok (long_eq c m ts)

/-- The class and the method in a symbol that was read back. -/
def marks (n : NativeName) : List (Option Char) :=
  Symbol.marked '.' n.className.toList ++ none :: n.methodName.toList.map some

/-- The ending of a symbol that was read back. -/
def endingMarks : Option (List JavaType) → List (Option Char)
  | none => []
  | some ts => none :: none :: Symbol.marked '/' (ts.flatMap JavaType.descriptorChars)

theorem decode_ending {parameters : Option (List JavaType)}
    (h : ∀ ts, parameters = some ts → ∀ t ∈ ts, t.HasNames IsDeclaredName) :
    Symbol.decode (ending parameters) = endingMarks parameters := by
  cases parameters with
  | none => rfl
  | some ts =>
    have hts := h ts rfl
    have hdigit : Symbol.NoEscape
        ((ts.flatMap JavaType.descriptorChars).flatMap Symbol.descriptorChar ++ []) :=
      Symbol.isCoding_descriptorChar.noEscape_flatMap
        (JavaType.head_flatMap_descriptorChars hts) (by simp [Symbol.NoEscape])
    have hfollowed : Text.Followed '/' (·.isDigit = false)
        (ts.flatMap JavaType.descriptorChars) :=
      (JavaType.followed_flatMap_descriptorChars hts).imp fun _ => And.right
    have hdecode := Symbol.isCoding_descriptorChar.decode_flatMap
      (JavaType.low_flatMap_descriptorChars hts) hfollowed []
    rw [List.append_nil] at hdigit hdecode
    rw [ending, Symbol.decode_separator (Symbol.noEscape_underscore _),
      Symbol.decode_separator hdigit, hdecode]
    simp [Symbol.decode, endingMarks]

theorem noEscape_method {n : NativeName} (h : n.IsWellFormed) (rest : List Char) :
    Symbol.NoEscape (n.methodName.toList.flatMap Symbol.escapeChar ++ rest) := by
  obtain ⟨c, tail, hname, hc⟩ := h.method_name.start
  rw [hname, List.flatMap_cons, List.append_assoc]
  exact Symbol.noEscape_escapeChar hc _

/-- Everything that is written into a symbol is read back. -/
theorem decode_body {n : NativeName} (h : n.IsWellFormed) :
    Symbol.decode n.body = n.marks ++ endingMarks n.parameters := by
  have hclass : Text.Followed '.' (·.isDigit = false) n.className.toList :=
    (Text.followed_of_splitOn h.class_name.segments).imp fun c hc => hc.2
  rw [body, Symbol.isCoding_classChar.decode_flatMap h.class_name.low hclass,
    Symbol.decode_separator (noEscape_method h _),
    Symbol.decode_flatMap_escapeChar h.method_name.low, decode_ending h.types, marks,
    List.append_assoc, List.cons_append]

/-! ### Where its parts end -/

theorem isDoubled_endingMarks (parameters : Option (List JavaType)) :
    Text.IsDoubled none (endingMarks parameters) := by
  cases parameters with
  | none => exact .inl rfl
  | some ts => exact .inr ⟨_, rfl⟩

theorem followed_marks {n : NativeName} (h : n.IsWellFormed) :
    Text.Followed none (· ≠ none) n.marks := by
  have hclass : Text.Followed none (· ≠ none) (Symbol.marked '.' n.className.toList) :=
    (Text.followed_of_splitOn h.class_name.segments).replace (fun c _ => Option.some_ne_none c)
      fun c _ => Option.some_ne_none c
  -- the separator in front of the method is followed by it, and in the method there is none
  refine hclass.append (Text.Followed.cons ?_ (Text.followed_of_not_mem (by simp) _))
  obtain ⟨c, tail, hname, -⟩ := h.method_name.start
  exact ⟨some c, tail.map some, by rw [hname]; rfl, Option.some_ne_none c⟩

theorem endingMarks_injective {m n : NativeName} (hm : m.IsWellFormed) (hn : n.IsWellFormed)
    (h : endingMarks m.parameters = endingMarks n.parameters) : m.parameters = n.parameters := by
  have hdescribed {n : NativeName} (hn : n.IsWellFormed) {ts : List JavaType}
      (hts : n.parameters = some ts) : ∀ t ∈ ts, t.HasNames JavaType.IsDescribed := fun t ht =>
    (hn.types ts hts t ht).imp fun _ hname => hname.isDescribed
  cases hts : m.parameters with
  | none =>
    cases hus : n.parameters with
    | none => rfl
    | some us => rw [hts, hus] at h; cases h
  | some ts =>
    cases hus : n.parameters with
    | none => rw [hts, hus] at h; cases h
    | some us =>
      rw [hts, hus] at h
      have hchars := Symbol.marked_injective '/' (List.cons.inj (List.cons.inj h).2).2
      rw [JavaType.eq_of_flatMap_descriptorChars_eq (hdescribed hm hts) (hdescribed hn hus) hchars]

/-- The part of a symbol in front of the parameters tells class and method. -/
theorem eq_of_marks_eq {m n : NativeName} (h : m.marks = n.marks) :
    m.className = n.className ∧ m.methodName = n.methodName := by
  have hnone (s : String) : none ∉ s.toList.map some := by simp
  obtain ⟨hclass, hmethod⟩ := Text.append_inj_of_last (hnone _) (hnone _) h
  have hclass := Symbol.marked_injective '.' hclass
  have hmethod := List.map_injective_iff.2 (fun _ _ => Option.some.inj) hmethod
  exact ⟨String.toList_inj.1 hclass, String.toList_inj.1 hmethod⟩

/-- Methods are found under different symbols. -/
theorem eq_of_body_eq {m n : NativeName} (hm : m.IsWellFormed) (hn : n.IsWellFormed)
    (h : m.body = n.body) : m = n := by
  have hmarks : m.marks ++ endingMarks m.parameters = n.marks ++ endingMarks n.parameters := by
    rw [← decode_body hm, h, decode_body hn]
  obtain ⟨hfront, hending⟩ := (followed_marks hm).append_inj (followed_marks hn)
    (isDoubled_endingMarks _) (isDoubled_endingMarks _) hmarks
  obtain ⟨hclass, hmethod⟩ := eq_of_marks_eq hfront
  have hparameters := endingMarks_injective hm hn hending
  obtain ⟨_, _, _⟩ := m
  obtain ⟨_, _, _⟩ := n
  obtain ⟨rfl, rfl, rfl⟩ : _ ∧ _ ∧ _ := ⟨hclass, hmethod, hparameters⟩
  rfl

theorem isWordChar_of_mem_body {n : NativeName} {c : Char} (h : c ∈ n.body) : isWordChar c := by
  have hflat {char : Char → List Char} (hchar : ∀ b, ∀ d ∈ char b, isWordChar d) {s : List Char}
      (hc : c ∈ s.flatMap char) : isWordChar c := by
    obtain ⟨b, -, hb⟩ := List.mem_flatMap.1 hc
    exact hchar b c hb
  have hunderscore : isWordChar '_' := by decide
  have hending : c ∈ ending n.parameters → isWordChar c := by
    cases n.parameters with
    | none => exact fun hc => absurd hc List.not_mem_nil
    | some ts =>
      intro hc
      simp only [ending, List.mem_cons] at hc
      rcases hc with rfl | rfl | hc
      · exact hunderscore
      · exact hunderscore
      · exact hflat (fun _ _ => Symbol.isWordChar_of_mem_descriptorChar) hc
  rw [body, List.mem_append, List.mem_cons, List.mem_append] at h
  rcases h with hc | rfl | hc | hc
  · exact hflat (fun _ _ => Symbol.isWordChar_of_mem_classChar) hc
  · exact hunderscore
  · exact hflat (fun _ _ => Symbol.isWordChar_of_mem_escapeChar) hc
  · exact hending hc

theorem isWordChar_of_mem_chars {n : NativeName} {c : Char} (h : c ∈ n.chars) :
    isWordChar c := by
  have hstart : ['J', 'a', 'v', 'a', '_'].all isWordChar := by decide
  rcases List.mem_append.1 h with hc | hc
  · exact List.all_eq_true.1 hstart c hc
  · exact isWordChar_of_mem_body hc

/-- Every native method has a symbol, made of letters, digits and underscores, and no two methods
have the same one, be they overloaded or not. -/
theorem symbol_unique {m n : NativeName} (hm : m.IsWellFormed) (hn : n.IsWellFormed) :
    ∃ s t, m.symbol = .ok s ∧ n.symbol = .ok t ∧ (s = t → m = n)
      ∧ (m.parameters = none → n.parameters ≠ none → s ≠ t)
      ∧ (∀ c ∈ s.toList, isWordChar c) ∧ ∀ c ∈ t.toList, isWordChar c := by
  have heq (h : String.ofList m.chars = String.ofList n.chars) : m = n :=
    eq_of_body_eq hm hn (List.append_cancel_left (String.ofList_injective h))
  have hword (n : NativeName) (c : Char) (hc : c ∈ (String.ofList n.chars).toList) :
      isWordChar c := by
    rw [String.toList_ofList] at hc
    exact isWordChar_of_mem_chars hc
  refine ⟨_, _, symbol_eq hm, symbol_eq hn, heq, ?_, hword m, hword n⟩
  intro hshort hlong hst
  obtain rfl := heq hst
  exact hlong hshort

theorem symbol_unique_underscored :
    IsWellFormed ⟨"a_._b$", "_c_", none⟩
      ∧ IsWellFormed ⟨"a_._b$", "_c_", some [.array (.declared "d._e"), .primitive .int]⟩
      ∧ ∃ s t, symbol ⟨"a_._b$", "_c_", none⟩ = .ok s
        ∧ symbol ⟨"a_._b$", "_c_", some [.array (.declared "d._e"), .primitive .int]⟩ = .ok t
        ∧ s ≠ t ∧ (∀ c ∈ s.toList, isWordChar c) ∧ ∀ c ∈ t.toList, isWordChar c := by
  have hclass : IsClassName "a_._b$" :=
    ⟨by simp [Text.splitOn, Text.StartsWith], by simp⟩
  have hmethod : IsMethodName "_c_" := ⟨⟨'_', ['c', '_'], by simp, by decide⟩, by simp⟩
  have hdeclared : IsDeclaredName "d._e" :=
    ⟨⟨by simp [Text.splitOn, Text.StartsWith], by simp⟩, by simp, by simp⟩
  have htypes : ∀ t ∈ [JavaType.array (.declared "d._e"), .primitive .int],
      t.HasNames IsDeclaredName := by
    simp [JavaType.HasNames, hdeclared]
  have hm : IsWellFormed ⟨"a_._b$", "_c_", none⟩ := ⟨hclass, hmethod, by simp⟩
  have hn : IsWellFormed
      ⟨"a_._b$", "_c_", some [.array (.declared "d._e"), .primitive .int]⟩ := by
    refine ⟨hclass, hmethod, fun ts hts => ?_⟩
    obtain rfl := Option.some.inj hts
    exact htypes
  obtain ⟨s, t, hs, ht, -, hne, hsword, htword⟩ := symbol_unique hm hn
  exact ⟨hm, hn, s, t, hs, ht, hne rfl (Option.some_ne_none _), hsword, htword⟩

end NativeName

/-- The functions that are generated for the native methods of a class have these symbols. -/
theorem NativeFunction.symbol_of_ofMethod {c : ClassModel} {names : ClassNames}
    (hnames : ClassNames.ofModel c = .ok names) {m : Method} {overloaded : Bool}
    {f : NativeFunction} (h : NativeFunction.ofMethod names m overloaded = .ok f) :
    NativeName.symbol ⟨names.qualified, m.name, if overloaded then some m.parameterTypes else none⟩
      = .ok f.symbol := by
  have hsymbol : names.symbol = Symbol.className names.qualified := by
    rw [ClassNames.ofModel] at hnames
    split_ifs at hnames
    obtain rfl := Except.ok.inj hnames
    rfl
  rw [ofMethod, hsymbol] at h
  obtain ⟨descriptor, -, h⟩ := bind_eq_ok_iff.1 h
  cases overloaded with
  | false | true =>
    obtain ⟨symbol, hs, h⟩ := bind_eq_ok_iff.1 h
    obtain ⟨parameters, -, h⟩ := bind_eq_ok_iff.1 h
    obtain ⟨native, -, h⟩ := bind_eq_ok_iff.1 h
    obtain rfl := Except.ok.inj h
    exact hs

end JniBindings
