import JniBindings.Proofs.JavaType.Spelling
/-!
# The grammar of spelled types

A spelled type is a name, a group of type arguments, pairs of brackets and three dots, in this
order, of which all but the name may be missing. `SpelledType` holds these parts. The reader accepts
the texts that are put together from parts that are valid, and what it reads is what the parts
denote (`JavaType.ofSpelling_accepts_grammar`); the type arguments are matched by counting brackets,
and `ClosesGroups` says what has been read when the count is not back to zero.
-/

namespace JniBindings

/-! ### Type arguments -/

/-- Angle brackets nest properly in the text. -/
inductive IsNested : List Char → Prop
  | nil : IsNested []
  | char {c : Char} {s : List Char} (hopen : c ≠ '<') (hclose : c ≠ '>') (hs : IsNested s) :
    IsNested (c :: s)
  | group {inner s : List Char} (hinner : IsNested inner) (hs : IsNested s) :
    IsNested ('<' :: (inner ++ '>' :: s))

/-- The text is a group of type arguments: its first bracket is closed by its last one. -/
def IsGroup (s : List Char) : Prop := ∃ inner, IsNested inner ∧ s = '<' :: (inner ++ ['>'])

/-- The text closes a number of groups around it, but nests properly otherwise. -/
def ClosesGroups : Nat → List Char → Prop
  | 0, s => IsNested s
  | depth + 1, s =>
    ∃ inner rest, IsNested inner ∧ ClosesGroups depth rest ∧ s = inner ++ '>' :: rest

theorem ClosesGroups.char {depth : Nat} {c : Char} {s : List Char} (hopen : c ≠ '<')
    (hclose : c ≠ '>') (h : ClosesGroups depth s) : ClosesGroups depth (c :: s) := by
  cases depth with
  | zero => exact IsNested.char hopen hclose h
  | succ depth =>
    obtain ⟨inner, rest, hinner, hrest, rfl⟩ := h
    exact ⟨c :: inner, rest, hinner.char hopen hclose, hrest, rfl⟩

theorem ClosesGroups.group {depth : Nat} {s : List Char} (h : ClosesGroups (depth + 1) s) :
    ClosesGroups depth ('<' :: s) := by
  obtain ⟨inner, s, hinner, hs, rfl⟩ := h
  cases depth with
  | zero => exact hinner.group hs
  | succ depth =>
    obtain ⟨inner', rest, hinner', hrest, rfl⟩ := hs
    exact ⟨'<' :: (inner ++ '>' :: inner'), rest, hinner.group hinner', hrest, by simp⟩

theorem afterTypeArguments?_cons_of_ne {c : Char} (hopen : c ≠ '<') (hclose : c ≠ '>')
    (depth : Nat) (s : List Char) :
    afterTypeArguments? depth (c :: s) = afterTypeArguments? depth s := by
  cases depth <;> simp [afterTypeArguments?, hclose]

theorem afterTypeArguments?_append {s : List Char} (h : IsNested s) (depth : Nat)
    (rest : List Char) :
    afterTypeArguments? depth (s ++ rest) = afterTypeArguments? depth rest := by
  induction h generalizing depth rest with
  | nil => rfl
  | char hopen hclose _ ih => rw [List.cons_append, afterTypeArguments?_cons_of_ne hopen hclose, ih]
  | @group inner s _ _ ihinner ihs =>
    calc afterTypeArguments? depth ('<' :: (inner ++ '>' :: s) ++ rest)
      _ = afterTypeArguments? (depth + 1) (inner ++ '>' :: (s ++ rest)) := by
        rw [List.cons_append, List.append_assoc]
        rfl
      _ = afterTypeArguments? depth rest := by
        rw [ihinner]
        exact ihs depth rest

theorem exists_of_afterTypeArguments? {depth : Nat} {s rest : List Char}
    (h : afterTypeArguments? depth s = some rest) :
    ∃ t, ClosesGroups depth t ∧ s = t ++ '>' :: rest := by
  fun_induction afterTypeArguments? depth s with
  | case1 => cases h
  | case2 depth s ih =>
    obtain ⟨t, ht, rfl⟩ := ih h
    exact ⟨'<' :: t, ht.group, rfl⟩
  | case3 s =>
    obtain rfl := Option.some.inj h
    exact ⟨[], IsNested.nil, rfl⟩
  | case4 s depth ih =>
    obtain ⟨t, ht, rfl⟩ := ih h
    exact ⟨'>' :: t, ⟨[], t, IsNested.nil, ht, rfl⟩, rfl⟩
  | case5 depth c s hopen hzero hsucc ih =>
    obtain ⟨t, ht, rfl⟩ := ih h
    refine ⟨c :: t, ht.char hopen ?_, rfl⟩
    cases depth with
    | zero => exact hzero rfl
    | succ depth => exact hsucc depth rfl

theorem skipTypeArguments_of_head? {s : List Char} (h : s.head? ≠ some '<') :
    skipTypeArguments s = .ok s := by
  unfold skipTypeArguments
  split
  · exact absurd rfl h
  · rfl

theorem skipTypeArguments_append {g : List Char} (h : IsGroup g) (rest : List Char) :
    skipTypeArguments (g ++ rest) = .ok rest := by
  obtain ⟨inner, hinner, rfl⟩ := h
  have hafter : afterTypeArguments? 0 (inner ++ '>' :: rest) = some rest := by
    rw [afterTypeArguments?_append hinner]
    rfl
  simp [skipTypeArguments, hafter]

theorem exists_of_skipTypeArguments {s rest : List Char} (h : skipTypeArguments s = .ok rest) :
    ∃ g, (g = [] ∨ IsGroup g) ∧ s = g ++ rest := by
  unfold skipTypeArguments at h
  split at h
  · split at h
    · next hrest =>
      obtain rfl := Except.ok.inj h
      obtain ⟨inner, hinner, rfl⟩ := exists_of_afterTypeArguments? hrest
      exact ⟨'<' :: (inner ++ ['>']), Or.inr ⟨inner, hinner, rfl⟩, by simp⟩
    · cases h
  · exact ⟨[], Or.inl rfl, Except.ok.inj h⟩

/-! ### Brackets and dots -/

/-- Pairs of brackets. -/
def bracketPairs : Nat → List Char
  | 0 => []
  | n + 1 => '[' :: ']' :: bracketPairs n

theorem readBrackets_append {rest : List Char} (h : rest.head? ≠ some '[') (n : Nat) :
    readBrackets (bracketPairs n ++ rest) = .ok (n, rest) := by
  induction n with
  | zero =>
    rw [bracketPairs, List.nil_append]
    unfold readBrackets
    split
    · exact absurd rfl h
    · exact absurd rfl h
    · exact absurd rfl h
    · rfl
  | succ n ih =>
    show (readBrackets (bracketPairs n ++ rest) >>= _) = _
    rw [ih]
    rfl

theorem eq_of_readBrackets {s rest : List Char} {n : Nat} (h : readBrackets s = .ok (n, rest)) :
    s = bracketPairs n ++ rest := by
  fun_induction readBrackets s generalizing n rest with
  | case1 s ih =>
    obtain ⟨⟨m, back⟩, hm, h⟩ := bind_eq_ok_iff.1 h
    obtain ⟨rfl, rfl⟩ := Prod.mk.inj (Except.ok.inj h)
    rw [ih hm]
    rfl
  | case2 => cases h
  | case3 => cases h
  | case4 s =>
    obtain ⟨rfl, rfl⟩ := Prod.mk.inj (Except.ok.inj h)
    rfl

/-- The dots of a variable parameter, or nothing. -/
def dotsIf (dotted : Bool) : List Char := if dotted then dots else []

theorem readDots_dotsIf (dotted : Bool) : readDots (dotsIf dotted) = .ok (dotted, []) := by
  cases dotted <;> rfl

theorem eq_of_readDots {s rest : List Char} {dotted : Bool} (h : readDots s = .ok (dotted, rest)) :
    s = dotsIf dotted ++ rest := by
  unfold readDots at h
  split at h
  · next hdots =>
    obtain ⟨rfl, rfl⟩ := Prod.mk.inj (Except.ok.inj h)
    exact Text.dropStart?_eq_some_iff.1 hdots
  · split_ifs at h
    obtain ⟨rfl, rfl⟩ := Prod.mk.inj (Except.ok.inj h)
    rfl

theorem dropDots?_eq_none_iff {name : List Char} : dropDots? name = none ↔ ¬ dots <:+ name := by
  rw [Option.eq_none_iff_forall_ne_some]
  constructor
  · rintro h ⟨base, rfl⟩
    exact h base (dropDots?_eq_some_iff.2 rfl)
  · intro h base hbase
    exact h ⟨base, (dropDots?_eq_some_iff.1 hbase).symm⟩

/-! ### The grammar -/

/-- What a name in a spelling stands for. -/
inductive IsNamed : String → JavaType → Prop
  | primitive (p : Primitive) : IsNamed p.keyword (.primitive p)
  | null : IsNamed "null" .null
  | declared {name : String} (hkeyword : ∀ p : Primitive, name ≠ p.keyword)
    (hnull : name ≠ "null") : IsNamed name (.declared name)

theorem isNamed_iff {name : String} {t : JavaType} : IsNamed name t ↔ t = .named name := by
  constructor
  · rintro (p | _ | ⟨hkeyword, hnull⟩)
    · rw [JavaType.named, Primitive.ofKeyword?_keyword]
    · decide
    · have hnone : Primitive.ofKeyword? name = none :=
        List.find?_eq_none.2 fun p _ => by simpa using (hkeyword p).symm
      rw [JavaType.named, hnone, if_neg hnull]
  · rintro rfl
    unfold JavaType.named
    split
    · next p hp =>
      obtain rfl : p.keyword = name := by simpa using List.find?_some hp
      exact .primitive p
    · next hnone =>
      split_ifs with hnull
      · exact hnull ▸ .null
      · refine .declared (fun p hp => ?_) hnull
        rw [hp, Primitive.ofKeyword?_keyword] at hnone
        cases hnone

/-- The parts of a spelled type. -/
structure SpelledType where
  name : List Char
  arguments : List Char
  brackets : Nat
  dotted : Bool

namespace SpelledType

variable (p : SpelledType)

/-- What is written after the name. -/
def ending : List Char := p.arguments ++ (bracketPairs p.brackets ++ dotsIf p.dotted)

/-- The spelling. -/
def text : List Char := p.name ++ p.ending

/-- The name is not empty and is as long as it can be, and there is at most one group of type
arguments. -/
structure IsValid : Prop where
  name_ne_nil : p.name ≠ []
  nameChars : ∀ c ∈ p.name, isNameChar c
  longest : ∀ c ∈ p.ending.head?, isNameChar c = false
  arguments : p.arguments = [] ∨ IsGroup p.arguments

/-- The array levels that are written after the name. -/
def levels : Nat := p.brackets + if p.dotted then 1 else 0

/-- What the parts stand for. Dots at the end of the name are one more array level. -/
inductive Denotes : JavaType → Prop
  | plain {t : JavaType} (hdots : ¬ dots <:+ p.name) (h : IsNamed (String.ofList p.name) t) :
    Denotes (t.arrayOf p.levels)
  | dotted {name : List Char} {t : JavaType} (hname : p.name = name ++ dots)
    (h : IsNamed (String.ofList name) t) : Denotes (t.arrayOf (p.levels + 1))

/-- The type that the parts denote. -/
def type : JavaType :=
  match dropDots? p.name with
  | some name => (JavaType.named (String.ofList name)).arrayOf (p.levels + 1)
  | none => (JavaType.named (String.ofList p.name)).arrayOf p.levels

variable {p} {t : JavaType}

theorem denotes_iff : p.Denotes t ↔ t = p.type := by
  constructor
  · rintro (⟨hdots, h⟩ | ⟨hname, h⟩)
    · rw [type, dropDots?_eq_none_iff.2 hdots, isNamed_iff.1 h]
    · rw [type, dropDots?_eq_some_iff.2 hname, isNamed_iff.1 h]
  · rintro rfl
    unfold type
    split
    · next name hname => exact .dotted (dropDots?_eq_some_iff.1 hname) (isNamed_iff.2 rfl)
    · next hnone => exact .plain (dropDots?_eq_none_iff.1 hnone) (isNamed_iff.2 rfl)

theorem IsValid.takeWhile_text (hp : p.IsValid) : p.text.takeWhile isNameChar = p.name := by
  have hending : p.ending.takeWhile isNameChar = [] := by
    have hlongest := hp.longest
    cases hending : p.ending with
    | nil => rfl
    | cons c rest =>
      rw [hending] at hlongest
      exact List.takeWhile_cons_of_neg (by simp [hlongest c rfl])
  rw [text, List.takeWhile_append_of_pos hp.nameChars, hending, List.append_nil]

theorem IsValid.dropWhile_text (hp : p.IsValid) : p.text.dropWhile isNameChar = p.ending := by
  have htext := List.takeWhile_append_dropWhile (p := isNameChar) (l := p.text)
  rw [hp.takeWhile_text] at htext
  exact List.append_cancel_left htext

theorem skipTypeArguments_ending (harguments : p.arguments = [] ∨ IsGroup p.arguments) :
    skipTypeArguments p.ending = .ok (bracketPairs p.brackets ++ dotsIf p.dotted) := by
  rcases harguments with harguments | harguments
  · rw [ending, harguments, List.nil_append]
    apply skipTypeArguments_of_head?
    cases p.brackets with
    | zero => cases p.dotted <;> decide
    | succ n => simp [bracketPairs]
  · exact skipTypeArguments_append harguments _

end SpelledType

namespace JavaType

/-- A text that is put together from valid parts is read. -/
theorem readSpelling_text {p : SpelledType} (hp : p.IsValid) {t : JavaType} (ht : p.Denotes t) :
    readSpelling p.text = .ok (t, []) := by
  have hname : ¬ p.name.isEmpty := mt List.isEmpty_iff.1 hp.name_ne_nil
  have hbrackets : readBrackets (bracketPairs p.brackets ++ dotsIf p.dotted)
      = .ok (p.brackets, dotsIf p.dotted) :=
    readBrackets_append (by cases p.dotted <;> decide) _
  rw [readSpelling]
  simp only [hp.takeWhile_text, hp.dropWhile_text, if_neg hname, SpelledType.denotes_iff.1 ht]
  rw [SpelledType.skipTypeArguments_ending hp.arguments]
  show (readBrackets _ >>= _) = _
  rw [hbrackets]
  show (readDots _ >>= _) = _
  rw [readDots_dotsIf]
  unfold SpelledType.type
  cases dropDots? p.name <;> rfl

theorem exists_of_readSpelling {s : List Char} {t : JavaType}
    (h : readSpelling s = .ok (t, [])) :
    ∃ p : SpelledType, p.IsValid ∧ p.text = s ∧ p.Denotes t := by
  unfold readSpelling at h
  dsimp only at h
  split at h
  · cases h
  · next hname =>
    obtain ⟨afterArguments, harguments, h⟩ := bind_eq_ok_iff.1 h
    obtain ⟨⟨brackets, afterBrackets⟩, hbrackets, h⟩ := bind_eq_ok_iff.1 h
    obtain ⟨⟨dotted, afterDots⟩, (hdots : readDots afterBrackets = _), h⟩ := bind_eq_ok_iff.1 h
    obtain ⟨arguments, hgroup, hending⟩ := exists_of_skipTypeArguments harguments
    let p : SpelledType := ⟨s.takeWhile isNameChar, arguments, brackets, dotted⟩
    have hmeaning : afterDots = [] ∧ p.Denotes t := by
      rw [SpelledType.denotes_iff, SpelledType.type]
      split at h
      · next name hdropped =>
        obtain ⟨rfl, rfl⟩ := Prod.mk.inj (Except.ok.inj h)
        exact ⟨rfl, by rw [hdropped]; rfl⟩
      · next hdropped =>
        obtain ⟨rfl, rfl⟩ := Prod.mk.inj (Except.ok.inj h)
        exact ⟨rfl, by rw [hdropped]; rfl⟩
    have hrest : s.dropWhile isNameChar = p.ending := by
      rw [hending, eq_of_readBrackets hbrackets, eq_of_readDots hdots, hmeaning.1, List.append_nil]
      rfl
    have hnameChars : ∀ c ∈ p.name, isNameChar c := List.all_eq_true.1 List.all_takeWhile
    refine ⟨p, ⟨mt List.isEmpty_iff.2 hname, hnameChars, ?_, hgroup⟩, ?_, hmeaning.2⟩
    · intro c hc
      rw [← hrest] at hc
      have hnot := List.head?_dropWhile_not isNameChar s
      rw [hc] at hnot
      exact hnot
    · rw [SpelledType.text, ← hrest]
      exact List.takeWhile_append_dropWhile

theorem readSpelling_eq_ok_iff {s : List Char} {t : JavaType} : readSpelling s = .ok (t, [])
    ↔ ∃ p : SpelledType, p.IsValid ∧ p.text = s ∧ p.Denotes t := by
  refine ⟨exists_of_readSpelling, ?_⟩
  rintro ⟨p, hp, rfl, ht⟩
  exact readSpelling_text hp ht

/-- A type is read from a text if and only if the text, without the white space around it, is put
together from valid parts that denote the type. Parts denote one type, whatever the type arguments
are. On every other text the reader comes to a stop, and the text is reported. -/
theorem ofSpelling_accepts_grammar (text : String) :
    (∀ t, ofSpelling text = .ok t
      ↔ ∃ p : SpelledType, p.IsValid ∧ p.text = Text.trimList text.toList ∧ p.Denotes t)
    ∧ (∀ p : SpelledType, ∃ t, ∀ arguments u,
      SpelledType.Denotes { p with arguments } u ↔ u = t)
    ∧ ((¬ ∃ p : SpelledType, p.IsValid ∧ p.text = Text.trimList text.toList) →
      ∃ stop, ofSpelling text = .error (.malformed (.stuck stop .typeName text))) := by
  have hread (t : JavaType) : ofSpelling text = .ok t
      ↔ ∃ p : SpelledType, p.IsValid ∧ p.text = Text.trimList text.toList ∧ p.Denotes t :=
    faultIn_complete_eq_ok_iff.trans readSpelling_eq_ok_iff
  refine ⟨hread, fun p => ⟨p.type, fun _ _ => SpelledType.denotes_iff⟩, fun hno => ?_⟩
  unfold ofSpelling
  cases hcomplete : complete (readSpelling (Text.trimList text.toList)) with
  | error stop => exact ⟨stop, rfl⟩
  | ok t =>
    obtain ⟨p, hp, htext, -⟩ := (hread t).1 (by rw [ofSpelling, hcomplete]; rfl)
    exact absurd ⟨p, hp, htext⟩ hno

example : ofSpelling " a.B<C<?>, D[]>[]... " = .ok (array (array (declared "a.B"))) := by decide

end JavaType

end JniBindings
