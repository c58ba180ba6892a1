import JniBindings.Cpp.Literal
import Mathlib.Data.List.Infix
import Mathlib.Data.List.TakeWhile
import Mathlib.Tactic.SplitIfs
/-!
# Reading string literals

`denoted?` reads what stands between the quotes of a string literal the way a compiler does: first
trigraphs are replaced, if the compiler still knows them, then continued lines are joined, and then
escape sequences are read. A text that is written as it is denotes itself only if nothing in it has
a meaning of its own (`denotes_self_iff`).
-/

namespace JniBindings.Cpp

/-! ### The reader -/

/-- The character that stands for a trigraph, by the last character of the trigraph. -/
def trigraph? : Char → Option Char
  | '=' => some '#'
  | '/' => some '\\'
  | '\x27' => some '^'
  | '(' => some '['
  | ')' => some ']'
  | '!' => some '|'
  | '<' => some '\x7b'
  | '>' => some '\x7d'
  | '-' => some '~'
  | _ => none

/-- A text with all trigraphs replaced. -/
def replaceTrigraphs : List Char → List Char
  | '?' :: '?' :: c :: rest => match trigraph? c with
    | some d => d :: replaceTrigraphs rest
    | none => '?' :: replaceTrigraphs ('?' :: c :: rest)
  | c :: rest => c :: replaceTrigraphs rest
  | [] => []

/-- The character ends a line. -/
def endsLine (c : Char) : Bool := c = '\n' || c = '\r'

/-- A text with every line joined to the one after it, if it ends with a backslash. -/
def joinLines : List Char → List Char
  | '\\' :: c :: rest => if endsLine c then joinLines rest else '\\' :: joinLines (c :: rest)
  | c :: rest => c :: joinLines rest
  | [] => []

/-- The value of a digit, which is 16 if the character is none. -/
def digitValue (c : Char) : Nat :=
  if '0' ≤ c ∧ c ≤ '9' then c.toNat - '0'.toNat
  else if 'a' ≤ c ∧ c ≤ 'f' then c.toNat - 'a'.toNat + 10
  else if 'A' ≤ c ∧ c ≤ 'F' then c.toNat - 'A'.toNat + 10
  else 16

/-- The number that digits make up. -/
def numberOf (base : Nat) (digits : List Char) : Nat :=
  digits.foldl (fun n c => base * n + digitValue c) 0

/-- The number at the front of a text, and what follows it. Only so many digits are taken, and there
have to be enough. -/
def leadingNumber? (base least most : Nat) (s : List Char) : Option (Nat × List Char) :=
  let digits := (s.take most).takeWhile (digitValue · < base)
  if digits.length < least then none
  else some (numberOf base digits, s.drop digits.length)

/-- The character with a given number, if the number is below a bound. -/
def charBelow? (bound : Nat) : Nat × List Char → Option (Char × List Char)
  | (n, rest) => if n < bound ∧ n.isValidChar then some (Char.ofNat n, rest) else none

/-- What a backslash with a single character stands for. -/
def simpleEscape? : Char → Option Char
  | '\x27' => some '\x27'
  | '"' => some '"'
  | '?' => some '?'
  | '\\' => some '\\'
  | 'a' => some '\x07'
  | 'b' => some '\x08'
  | 'f' => some '\x0c'
  | 'n' => some '\n'
  | 'r' => some '\r'
  | 't' => some '\t'
  | 'v' => some '\x0b'
  | _ => none

/-- The character that an escape sequence stands for, and what follows the sequence; the backslash
has been taken off. Octal and hexadecimal numbers stand for bytes, which are characters below 128
only. -/
def escape? : List Char → Option (Char × List Char)
  | [] => none
  | c :: rest => match simpleEscape? c with
    | some d => some (d, rest)
    | none =>
      if c = 'x' then (leadingNumber? 16 1 rest.length rest).bind (charBelow? 0x80)
      else if c = 'u' then (leadingNumber? 16 4 4 rest).bind (charBelow? 0x110000)
      else if c = 'U' then (leadingNumber? 16 8 8 rest).bind (charBelow? 0x110000)
      else (leadingNumber? 8 1 3 (c :: rest)).bind (charBelow? 0x80)

theorem length_le_of_leadingNumber? {base least most n : Nat} {s rest : List Char}
    (h : leadingNumber? base least most s = some (n, rest)) : rest.length + least ≤ s.length := by
  simp only [leadingNumber?] at h
  split_ifs at h with hleast
  obtain ⟨-, rfl⟩ := Prod.mk.inj (Option.some.inj h)
  have hdigits : ((s.take most).takeWhile (digitValue · < base)).length ≤ s.length :=
    ((List.takeWhile_sublist _).trans (List.take_sublist _ _)).length_le
  rw [List.length_drop]
  omega

theorem length_lt_of_escape? {c : Char} {s rest : List Char} (h : escape? s = some (c, rest)) :
    rest.length < s.length := by
  have hnumber {base least most bound : Nat} {t : List Char}
      (h : (leadingNumber? base least most t).bind (charBelow? bound) = some (c, rest)) :
      rest.length + least ≤ t.length := by
    obtain ⟨⟨n, back⟩, hn, hc⟩ := Option.bind_eq_some_iff.1 h
    simp only [charBelow?] at hc
    split_ifs at hc
    obtain ⟨-, rfl⟩ := Prod.mk.inj (Option.some.inj hc)
    exact length_le_of_leadingNumber? hn
  cases s with
  | nil => cases h
  | cons d s =>
    rw [List.length_cons]
    simp only [escape?] at h
    split at h
    · obtain ⟨-, rfl⟩ := Prod.mk.inj (Option.some.inj h)
      omega
    · split_ifs at h
      · have hle := hnumber h
        omega
      · have hle := hnumber h
        omega
      · have hle := hnumber h
        omega
      · have hle := hnumber h
        rw [List.length_cons] at hle
        omega

/-- The character stands for itself in a string literal. -/
def isOrdinary (c : Char) : Bool := c ≠ '"' && c ≠ '\\' && !endsLine c

/-- The characters that the body of a string literal stands for, after trigraphs and continued
lines. -/
def readBody (s : List Char) : Option (List Char) :=
  match s with
  | [] => some []
  | c :: rest =>
    if c = '\\' then
      match _h : escape? rest with
      | some (d, back) => (readBody back).map (d :: ·)
      | none => none
    else if isOrdinary c then (readBody rest).map (c :: ·)
    else none
termination_by s.length
decreasing_by
  · exact Nat.lt_succ_of_lt (length_lt_of_escape? _h)
  · exact Nat.lt_succ_self _

/-- The text that the body of a string literal stands for, if it is one. Later compilers have no
trigraphs. -/
def denoted? (trigraphs : Bool) (body : String) : Option String :=
  let s := if trigraphs then replaceTrigraphs body.toList else body.toList
  (readBody (joinLines s)).map String.ofList

/-- Every compiler reads the body of a string literal as a given text. -/
def Denotes (body text : String) : Prop :=
  ∀ trigraphs, denoted? trigraphs body = some text

/-! ### Steps of the reader -/

theorem eq_of_endsLine {c : Char} (h : endsLine c) : c = '\n' ∨ c = '\r' := by
  simpa [endsLine] using h

theorem joinLines_of_forall {s : List Char} (h : ∀ c ∈ s, endsLine c = false) :
    joinLines s = s := by
  fun_induction joinLines s with
  | case1 c rest hc =>
    rw [h c (by simp)] at hc
    cases hc
  | case2 c rest hc ih => rw [ih fun d hd => h d (List.mem_cons_of_mem _ hd)]
  | case3 c rest _ ih => rw [ih fun d hd => h d (List.mem_cons_of_mem _ hd)]
  | case4 => rfl

theorem readBody_escape {d : Char} {s rest : List Char} (h : escape? s = some (d, rest)) :
    readBody ('\\' :: s) = (readBody rest).map (d :: ·) := by
  rw [readBody, if_pos rfl]
  split
  · next h' =>
    rw [h] at h'
    obtain ⟨rfl, rfl⟩ := Prod.mk.inj (Option.some.inj h')
    rfl
  · next h' => rw [h] at h'; cases h'

theorem ne_backslash_of_isOrdinary {c : Char} (h : isOrdinary c) : c ≠ '\\' := by
  rintro rfl
  exact absurd h (by decide)

theorem endsLine_of_isOrdinary {c : Char} (h : isOrdinary c) : endsLine c = false := by
  simp only [isOrdinary, Bool.and_eq_true, Bool.not_eq_true'] at h
  exact h.2

theorem readBody_cons {c : Char} (h : isOrdinary c) (s : List Char) :
    readBody (c :: s) = (readBody s).map (c :: ·) := by
  rw [readBody, if_neg (ne_backslash_of_isOrdinary h), if_pos h]

/-! ### Texts without escapes -/

/-- Nothing in the text has a meaning of its own in a string literal. -/
structure IsPlain (s : String) : Prop where
  ordinary : ∀ c ∈ s.toList, isOrdinary c
  no_trigraph : ∀ c, (trigraph? c).isSome → ¬ ['?', '?', c] <:+: s.toList

theorem isPlain_of_forall {s : String} (h : ∀ c ∈ s.toList, isOrdinary c ∧ c ≠ '?') :
    IsPlain s where
  ordinary c hc := (h c hc).1
  no_trigraph c _ hinfix := by
    have hmem : '?' ∈ s.toList := hinfix.subset List.mem_cons_self
    exact (h '?' hmem).2 rfl

theorem length_replaceTrigraphs_le (s : List Char) :
    (replaceTrigraphs s).length ≤ s.length := by
  fun_induction replaceTrigraphs s with
  | case1 c rest d hd ih => simp only [List.length_cons]; omega
  | case2 c rest hc ih => simp only [List.length_cons] at ih ⊢; omega
  | case3 c rest _ ih => simp only [List.length_cons]; omega
  | case4 => exact Nat.le_refl _

theorem length_replaceTrigraphs_lt {c : Char} (hc : (trigraph? c).isSome) {s : List Char}
    (h : ['?', '?', c] <:+: s) : (replaceTrigraphs s).length < s.length := by
  fun_induction replaceTrigraphs s with
  | case1 d rest e he ih =>
    have hle := length_replaceTrigraphs_le rest
    simp only [List.length_cons]
    omega
  | case2 d rest hd ih =>
    rcases List.infix_cons_iff.1 h with hprefix | hinfix
    · obtain ⟨back, hback⟩ := hprefix
      obtain ⟨rfl, rfl⟩ : c = d ∧ back = rest := by simpa using hback
      rw [hd] at hc
      cases hc
    · have hlt := ih hinfix
      simp only [List.length_cons] at hlt ⊢
      omega
  | case3 d rest hd ih =>
    rcases List.infix_cons_iff.1 h with hprefix | hinfix
    · obtain ⟨back, hback⟩ := hprefix
      obtain ⟨rfl, rfl⟩ := List.cons.inj hback
      exact (hd _ _ rfl rfl).elim
    · have hlt := ih hinfix
      simp only [List.length_cons]
      omega
  | case4 => simp at h

theorem replaceTrigraphs_eq_self {s : List Char}
    (h : ∀ c, (trigraph? c).isSome → ¬ ['?', '?', c] <:+: s) : replaceTrigraphs s = s := by
  have htail {d : Char} {t : List Char}
      (h : ∀ c, (trigraph? c).isSome → ¬ ['?', '?', c] <:+: d :: t) :
      ∀ c, (trigraph? c).isSome → ¬ ['?', '?', c] <:+: t := fun c hc hinfix =>
    h c hc (List.infix_cons hinfix)
  fun_induction replaceTrigraphs s with
  | case1 c rest d hd ih => exact absurd ⟨[], rest, rfl⟩ (h c (by rw [hd]; rfl))
  | case2 c rest hc ih => rw [ih (htail h)]
  | case3 c rest _ ih => rw [ih (htail h)]
  | case4 => rfl

theorem length_joinLines_le (s : List Char) : (joinLines s).length ≤ s.length := by
  fun_induction joinLines s with
  | case1 c rest hc ih => simp only [List.length_cons]; omega
  | case2 c rest hc ih => simp only [List.length_cons] at ih ⊢; omega
  | case3 c rest _ ih => simp only [List.length_cons]; omega
  | case4 => exact Nat.le_refl _

/-- Joining lines makes a text shorter, if it does anything. -/
theorem joinLines_eq_self {s : List Char} (h : s.length ≤ (joinLines s).length) :
    joinLines s = s := by
  fun_induction joinLines s with
  | case1 c rest hc ih =>
    have hle := length_joinLines_le rest
    simp only [List.length_cons] at h
    omega
  | case2 c rest hc ih => rw [ih (Nat.le_of_succ_le_succ h)]
  | case3 c rest _ ih => rw [ih (Nat.le_of_succ_le_succ h)]
  | case4 => rfl

theorem length_readBody_le {s t : List Char} (h : readBody s = some t) : t.length ≤ s.length := by
  fun_induction readBody s generalizing t with
  | case1 =>
    obtain rfl := Option.some.inj h
    exact Nat.le_refl _
  | case2 rest d back hescape ih =>
    obtain ⟨u, hu, rfl⟩ := Option.map_eq_some_iff.1 h
    have hle := ih hu
    have hlt := length_lt_of_escape? hescape
    simp only [List.length_cons]
    omega
  | case3 => cases h
  | case4 c rest _ hc ih =>
    obtain ⟨u, hu, rfl⟩ := Option.map_eq_some_iff.1 h
    exact Nat.succ_le_succ (ih hu)
  | case5 => cases h

/-- Escapes make a text longer than what it stands for. -/
theorem isOrdinary_of_readBody {s t : List Char} (h : readBody s = some t)
    (hlength : s.length ≤ t.length) : ∀ c ∈ s, isOrdinary c := by
  fun_induction readBody s generalizing t with
  | case1 => nofun
  | case2 rest d back hescape ih =>
    obtain ⟨u, hu, rfl⟩ := Option.map_eq_some_iff.1 h
    have hle := length_readBody_le hu
    have hlt := length_lt_of_escape? hescape
    simp only [List.length_cons] at hlength
    omega
  | case3 => cases h
  | case4 c rest _ hc ih =>
    obtain ⟨u, hu, rfl⟩ := Option.map_eq_some_iff.1 h
    exact List.forall_mem_cons.2 ⟨hc, ih hu (Nat.le_of_succ_le_succ hlength)⟩
  | case5 => cases h

theorem readBody_of_isOrdinary {s : List Char} (h : ∀ c ∈ s, isOrdinary c) :
    readBody s = some s := by
  induction s with
  | nil => rw [readBody]
  | cons c s ih =>
    obtain ⟨hc, hs⟩ := List.forall_mem_cons.1 h
    rw [readBody_cons hc, ih hs]
    rfl

/-- A text without escapes is read as itself by every compiler if and only if it is plain. -/
theorem denotes_self_iff {s : String} : Denotes s s ↔ IsPlain s := by
  constructor
  · intro h
    obtain ⟨t, hread, ht⟩ := Option.map_eq_some_iff.1 (h true)
    obtain rfl : t = s.toList := by rw [← ht, String.toList_ofList]
    -- no step of the reader can have made the text shorter
    have hbody := length_readBody_le hread
    have hjoin := length_joinLines_le (replaceTrigraphs s.toList)
    have hreplace := length_replaceTrigraphs_le s.toList
    rw [if_pos rfl] at hread hbody
    have htrigraph : ∀ c, (trigraph? c).isSome → ¬ ['?', '?', c] <:+: s.toList := by
      intro c hc hinfix
      have hlt := length_replaceTrigraphs_lt hc hinfix
      omega
    rw [replaceTrigraphs_eq_self htrigraph] at hread hbody hjoin
    rw [joinLines_eq_self hbody] at hread
    exact ⟨isOrdinary_of_readBody hread (Nat.le_refl _), htrigraph⟩
  · rintro ⟨hordinary, htrigraph⟩ trigraphs
    have hjoin := joinLines_of_forall fun c hc => endsLine_of_isOrdinary (hordinary c hc)
    rw [denoted?, replaceTrigraphs_eq_self htrigraph, ite_self, hjoin,
      readBody_of_isOrdinary hordinary, Option.map_some, String.ofList_toList]

end JniBindings.Cpp
