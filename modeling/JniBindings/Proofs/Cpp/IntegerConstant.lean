import JniBindings.Identifier
import JniBindings.Proofs.Cpp.Literal
/-!
# Reading integer constants

An integer constant expression is read the way a compiler does it (`IsIntegerConstant`): the text is
cut into tokens, and these are added up. There are no negative literals, so that a minus in front of
a number is an operator, and a number that begins with a zero is octal. Numbers of type `int` and
`long long` and characters are written such that they are read back (`isIntegerConstant_intLiteral`,
`isIntegerConstant_longLiteral`, `isIntegerConstant_charLiteral`).
-/

namespace JniBindings.Cpp

/-! ### The reader -/

/-- A token of an integer constant expression. A literal of type `long long` has a suffix. -/
inductive Token
  | integer (value : Nat) (isLong : Bool)
  | character (value : Nat)
  | plus
  | minus
  | opening
  | closing
deriving DecidableEq

/-- The token that a character is on its own. -/
def operator? : Char → Option Token
  | '+' => some .plus
  | '-' => some .minus
  | '(' => some .opening
  | ')' => some .closing
  | _ => none

/-- The character is repeated, and two of it are another operator. -/
def isDoubled (c : Char) (rest : List Char) : Bool :=
  (c = '+' || c = '-') && rest.head? = some c

/-- The token that digits are, with the suffix behind them. A zero in front makes them octal. -/
def integerLiteral? (word : List Char) : Option Token :=
  let digits := word.takeWhile (digitValue · < 10)
  let base := if digits.head? = some '0' then 8 else 10
  if digits.isEmpty || !digits.all (digitValue · < base) then none
  else match word.drop digits.length with
    | [] => some (.integer (numberOf base digits) false)
    | ['L', 'L'] => some (.integer (numberOf base digits) true)
    | _ => none

/-- The end of a character literal after its character, which has to be an ASCII one. -/
def closeCharacter? (c : Char) : List Char → Option (Nat × List Char)
  | '\x27' :: rest => if c.toNat < 128 then some (c.toNat, rest) else none
  | _ => none

/-- The value of a character literal and what follows it; the opening quote has been taken off. -/
def characterLiteral? : List Char → Option (Nat × List Char)
  | [] => none
  | c :: rest =>
    if c = '\\' then (escape? rest).bind fun (d, back) => closeCharacter? d back
    else if c = '\x27' || endsLine c then none
    else closeCharacter? c rest

theorem length_lt_of_closeCharacter? {c : Char} {s rest : List Char} {n : Nat}
    (h : closeCharacter? c s = some (n, rest)) : rest.length < s.length := by
  unfold closeCharacter? at h
  split at h
  · split_ifs at h
    obtain ⟨-, rfl⟩ := Prod.mk.inj (Option.some.inj h)
    exact Nat.lt_succ_self _
  · cases h

theorem length_lt_of_characterLiteral? {s rest : List Char} {n : Nat}
    (h : characterLiteral? s = some (n, rest)) : rest.length < s.length := by
  cases s with
  | nil => cases h
  | cons c s =>
    rw [characterLiteral?] at h
    split_ifs at h
    · obtain ⟨⟨d, back⟩, hescape, hclose⟩ := Option.bind_eq_some_iff.1 h
      have hlt := length_lt_of_escape? hescape
      have hlt' := length_lt_of_closeCharacter? hclose
      exact (hlt'.trans hlt).trans (Nat.lt_succ_self _)
    · exact (length_lt_of_closeCharacter? h).trans (Nat.lt_succ_self _)

/-- The tokens of a text. -/
def tokens? (s : List Char) : Option (List Token) :=
  match s with
  | [] => some []
  | c :: rest =>
    if c = ' ' then tokens? rest
    else if c = '\x27' then
      match _h : characterLiteral? rest with
      | some (n, back) => (tokens? back).map (.character n :: ·)
      | none => none
    else match operator? c with
      | some t => if isDoubled c rest then none else (tokens? rest).map (t :: ·)
      | none => match integerLiteral? (c :: rest.takeWhile isWordChar) with
        | some t => (tokens? (rest.dropWhile isWordChar)).map (t :: ·)
        | none => none
termination_by s.length
decreasing_by
  · exact Nat.lt_succ_self _
  · exact Nat.lt_succ_of_lt (length_lt_of_characterLiteral? _h)
  · exact Nat.lt_succ_self _
  · exact Nat.lt_succ_of_le (List.dropWhile_sublist _).length_le

mutual

/-- The value of a sum, read from where a summand has to come. `outer` holds the sum before each
open parenthesis with the sign of the parenthesis, and `sign` is the sign of the summand. -/
def sumFrom? (outer : List (Int × Int)) (sum sign : Int) : List Token → Option Int
  | .integer n _ :: rest => sumAfter? outer (sum + sign * n) rest
  | .character n :: rest => sumAfter? outer (sum + sign * n) rest
  | .plus :: rest => sumFrom? outer sum sign rest
  | .minus :: rest => sumFrom? outer sum (-sign) rest
  | .opening :: rest => sumFrom? ((sum, sign) :: outer) 0 1 rest
  | _ => none

/-- The value of a sum, read from behind a summand. -/
def sumAfter? (outer : List (Int × Int)) (sum : Int) : List Token → Option Int
  | [] => if outer.isEmpty then some sum else none
  | .plus :: rest => sumFrom? outer sum 1 rest
  | .minus :: rest => sumFrom? outer sum (-1) rest
  | .closing :: rest => match outer with
    | (before, sign) :: outer => sumAfter? outer (before + sign * sum) rest
    | [] => none
  | _ => none

end

/-- The largest number of type `int`, or of type `long long`. -/
def largest (isLong : Bool) : Nat := if isLong then 9223372036854775807 else 2147483647

/-- If the token is an integer literal, its type has the number. -/
def Token.isBounded : Token → Bool
  | integer n isLong => n ≤ largest isLong
  | _ => true

/-- The text is an integer constant expression with a given value, and no literal in it is too large
for its type. -/
def IsIntegerConstant (text : String) (n : Int) : Prop :=
  ∃ ts, tokens? text.toList = some ts ∧ sumFrom? [] 0 1 ts = some n ∧ ts.all Token.isBounded

/-! ### Numbers -/

theorem isDigit_iff {c : Char} : c.isDigit ↔ '0'.toNat ≤ c.toNat ∧ c.toNat ≤ '9'.toNat := by
  rw [Char.isDigit, Bool.and_eq_true, decide_eq_true_eq, decide_eq_true_eq]
  exact Iff.rfl

theorem digitValue_of_isDigit {c : Char} (h : c.isDigit) :
    digitValue c = c.toNat - '0'.toNat ∧ digitValue c < 10 := by
  have hrange := isDigit_iff.1 h
  have hdigit : '0' ≤ c ∧ c ≤ '9' := hrange
  rw [digitValue, if_pos hdigit]
  have hzero : '0'.toNat = 48 := rfl
  have hnine : '9'.toNat = 57 := rfl
  exact ⟨rfl, by omega⟩

theorem isWordChar_of_isDigit {c : Char} (h : c.isDigit) : isWordChar c := by
  rw [isWordChar, Char.isAlphanum, h, Bool.or_true, Bool.true_or]

theorem operator?_of_isDigit {c : Char} (h : c.isDigit) :
    c ≠ ' ' ∧ c ≠ '\x27' ∧ operator? c = none := by
  have hne {d : Char} (hd : d.isDigit = false) : c ≠ d := by
    rintro rfl
    rw [h] at hd
    cases hd
  refine ⟨hne rfl, hne rfl, ?_⟩
  unfold operator?
  split
  · exact absurd rfl (hne (d := '+') rfl)
  · exact absurd rfl (hne (d := '-') rfl)
  · exact absurd rfl (hne (d := '(') rfl)
  · exact absurd rfl (hne (d := ')') rfl)
  · rfl

theorem isDigit_of_mem_digits {n : Nat} {c : Char} (h : c ∈ Nat.toDigits 10 n) : c.isDigit :=
  Nat.isDigit_of_mem_toDigits (by decide) (by decide) h

theorem numberOf_toDigits (n : Nat) : numberOf 10 (Nat.toDigits 10 n) = n := by
  have hfold : numberOf 10 (Nat.toDigits 10 n) = Nat.ofDigitChars 10 (Nat.toDigits 10 n) 0 :=
    List.foldl_ext _ _ _ fun m c hc => by rw [(digitValue_of_isDigit (isDigit_of_mem_digits hc)).1]
  rw [hfold, Nat.ofDigitChars_ten_toDigits]

/-- Only zero is written with a zero in front. -/
theorem head?_toDigits_ne {n : Nat} (hn : 0 < n) : (Nat.toDigits 10 n).head? ≠ some '0' := by
  induction n using Nat.strongRecOn with
  | ind n ih =>
    by_cases hlt : n < 10
    · rw [Nat.toDigits_of_lt_base hlt]
      have hdigit : ∀ k < 10, 0 < k → [k.digitChar].head? ≠ some '0' := by decide
      exact hdigit n hlt hn
    · rw [Nat.toDigits_of_base_le (by decide) (by omega),
        List.head?_append_of_ne_nil _ Nat.toDigits_ne_nil]
      exact ih (n / 10) (by omega) (by omega)

/-- The suffix of a literal. -/
def suffix (isLong : Bool) : List Char := if isLong then ['L', 'L'] else []

theorem integerLiteral?_append (n : Nat) (isLong : Bool) :
    integerLiteral? (Nat.toDigits 10 n ++ suffix isLong) = some (.integer n isLong) := by
  have hdigits : ∀ c ∈ Nat.toDigits 10 n, digitValue c < 10 := fun c hc =>
    (digitValue_of_isDigit (isDigit_of_mem_digits hc)).2
  have htake : (Nat.toDigits 10 n ++ suffix isLong).takeWhile (digitValue · < 10)
      = Nat.toDigits 10 n := by
    rw [List.takeWhile_append_of_pos fun c hc => decide_eq_true (hdigits c hc)]
    cases isLong <;> simp [suffix, digitValue]
  have hempty : (Nat.toDigits 10 n).isEmpty = false := by
    rw [List.isEmpty_eq_false_iff]
    exact Nat.toDigits_ne_nil
  rw [integerLiteral?]
  simp only [htake, hempty, Bool.false_or, List.drop_left]
  rcases Nat.eq_zero_or_pos n with rfl | hn
  · cases isLong <;> rfl
  · have hall : (Nat.toDigits 10 n).all (digitValue · < 10) :=
      List.all_eq_true.2 fun c hc => decide_eq_true (hdigits c hc)
    rw [if_neg (head?_toDigits_ne hn), hall, numberOf_toDigits]
    cases isLong <;> rfl

/-! ### Tokens -/

theorem tokens?_space (rest : List Char) : tokens? (' ' :: rest) = tokens? rest := by
  rw [tokens?, if_pos rfl]

theorem tokens?_operator {c : Char} {t : Token} {rest : List Char} (ht : operator? c = some t)
    (hrest : isDoubled c rest = false) : tokens? (c :: rest) = (tokens? rest).map (t :: ·) := by
  have hspace : c ≠ ' ' := by rintro rfl; cases ht
  have hquote : c ≠ '\x27' := by rintro rfl; cases ht
  rw [tokens?, if_neg hspace, if_neg hquote, ht]
  simp [hrest]

theorem tokens?_character {s rest : List Char} {n : Nat}
    (h : characterLiteral? s = some (n, rest)) :
    tokens? ('\x27' :: s) = (tokens? rest).map (.character n :: ·) := by
  rw [tokens?, if_neg (by decide), if_pos rfl]
  split
  · next h' =>
    rw [h] at h'
    obtain ⟨rfl, rfl⟩ := Prod.mk.inj (Option.some.inj h')
    rfl
  · next h' => rw [h] at h'; cases h'

/-- The digits of a number with its suffix are one token, if no character follows that could
continue them. -/
theorem tokens?_number (n : Nat) (isLong : Bool) {rest : List Char}
    (hrest : ∀ c ∈ rest.head?, isWordChar c = false) :
    tokens? (Nat.toDigits 10 n ++ suffix isLong ++ rest)
      = (tokens? rest).map (.integer n isLong :: ·) := by
  have hword : ∀ c ∈ Nat.toDigits 10 n ++ suffix isLong, isWordChar c := by
    intro c hc
    rcases List.mem_append.1 hc with hc | hc
    · exact isWordChar_of_isDigit (isDigit_of_mem_digits hc)
    · have hsuffix : (suffix isLong).all isWordChar := by cases isLong <;> rfl
      exact List.all_eq_true.1 hsuffix c hc
  have hends : rest.takeWhile isWordChar = [] ∧ rest.dropWhile isWordChar = rest := by
    cases rest with
    | nil => exact ⟨rfl, rfl⟩
    | cons c rest => simp [hrest c rfl]
  obtain ⟨d, ds, hds⟩ := List.exists_cons_of_ne_nil (Nat.toDigits_ne_nil (n := n) (b := 10))
  have hliteral := integerLiteral?_append n isLong
  rw [hds, List.cons_append] at hliteral hword ⊢
  obtain ⟨-, htail⟩ := List.forall_mem_cons.1 hword
  obtain ⟨hspace, hquote, hoperator⟩ := operator?_of_isDigit (c := d)
    (isDigit_of_mem_digits (n := n) (by rw [hds]; exact List.mem_cons_self))
  rw [List.cons_append, tokens?, if_neg hspace, if_neg hquote, hoperator]
  simp only
  rw [List.takeWhile_append_of_pos htail, hends.1, List.append_nil, hliteral,
    List.dropWhile_append_of_pos htail, hends.2]

/-! ### What is written for numbers and characters -/

theorem toList_toString_of_nonneg {n : Int} (h : 0 ≤ n) :
    (toString n).toList = Nat.toDigits 10 n.toNat := by
  rw [Int.toString_eq_repr, Int.repr_eq_if, if_pos h, Nat.toList_repr]

theorem toList_toString_of_neg {n : Int} (h : n < 0) :
    (toString n).toList = '-' :: Nat.toDigits 10 (-n).toNat := by
  rw [Int.toString_eq_repr, Int.repr_eq_if, if_neg (by omega), String.toList_append,
    Nat.toList_repr]
  rfl

theorem isDoubled_digits (n : Nat) (rest : List Char) :
    isDoubled '-' (Nat.toDigits 10 n ++ rest) = false := by
  obtain ⟨d, ds, hds⟩ := List.exists_cons_of_ne_nil (Nat.toDigits_ne_nil (n := n) (b := 10))
  have hd : d.isDigit := isDigit_of_mem_digits (n := n) (by rw [hds]; exact List.mem_cons_self)
  have hne : d ≠ '-' := by
    rintro rfl
    cases hd
  simp [hds, isDoubled, hne]

/-- A number in decimal digits, with a sign if it is negative, is read as itself. -/
theorem isIntegerConstant_toString {n : Int} (isLong : Bool) (hlow : -(largest isLong : Int) ≤ n)
    (hhigh : n ≤ largest isLong) :
    IsIntegerConstant (toString n ++ String.ofList (suffix isLong)) n := by
  have htoken (k : Nat) :
      tokens? (Nat.toDigits 10 k ++ suffix isLong) = some [.integer k isLong] := by
    have hrest : ∀ c ∈ ([] : List Char).head?, isWordChar c = false := nofun
    have hnumber := tokens?_number k isLong hrest
    rwa [List.append_nil, tokens?] at hnumber
  by_cases hn : 0 ≤ n
  · refine ⟨[.integer n.toNat isLong], ?_, ?_, ?_⟩
    · rw [String.toList_append, toList_toString_of_nonneg hn, String.toList_ofList, htoken]
    · simp [sumFrom?, sumAfter?, Int.toNat_of_nonneg hn]
    · simpa [Token.isBounded] using hhigh
  · have hneg : ((-n).toNat : Int) = -n := Int.toNat_of_nonneg (by omega)
    refine ⟨[.minus, .integer (-n).toNat isLong], ?_, ?_, ?_⟩
    · rw [String.toList_append, toList_toString_of_neg (by omega), String.toList_ofList,
        List.cons_append, tokens?_operator rfl (isDoubled_digits _ _), htoken]
      rfl
    · simp [sumFrom?, sumAfter?, hneg]
    · have hle : (-n).toNat ≤ largest isLong := by omega
      simpa [Token.isBounded] using hle

/-- The least number of a type is one less than what can be written with a literal. -/
theorem isIntegerConstant_least (isLong : Bool) :
    IsIntegerConstant (String.ofList ('(' :: '-' :: (Nat.toDigits 10 (largest isLong)
      ++ suffix isLong ++ [' ', '-', ' ', '1', ')']))) (-(largest isLong : Int) - 1) := by
  refine ⟨[.opening, .minus, .integer (largest isLong) isLong, .minus, .integer 1 false, .closing],
    ?_, ?_, ?_⟩
  · have hone : tokens? ['1', ')'] = some [.integer 1 false, .closing] := by
      have hparen : ∀ c ∈ [')'].head?, isWordChar c = false := by
        rintro _ ⟨⟩
        rfl
      have hnumber := tokens?_number 1 false hparen
      rw [tokens?_operator rfl rfl, tokens?] at hnumber
      exact hnumber
    have hspace : ∀ c ∈ [' ', '-', ' ', '1', ')'].head?, isWordChar c = false := by
      rintro _ ⟨⟩
      rfl
    rw [String.toList_ofList, tokens?_operator rfl rfl, tokens?_operator rfl
      (by rw [List.append_assoc]; exact isDoubled_digits _ _), tokens?_number _ _ hspace,
      tokens?_space, tokens?_operator rfl rfl, tokens?_space, hone]
    rfl
  · simp [sumFrom?, sumAfter?]
    omega
  · simp [Token.isBounded, largest]

theorem isIntegerConstant_int {n : Int} (hlow : -2147483647 ≤ n) (hhigh : n ≤ 2147483647) :
    IsIntegerConstant (toString n) n := by
  have hn := isIntegerConstant_toString (n := n) false hlow hhigh
  have hsuffix : String.ofList (suffix false) = "" := rfl
  rwa [hsuffix, String.append_empty] at hn

theorem isIntegerConstant_intLiteral {n : Int} (hlow : -2147483648 ≤ n) (hhigh : n ≤ 2147483647) :
    IsIntegerConstant (intLiteral n) n := by
  unfold intLiteral
  split_ifs with hleast
  · subst hleast
    exact isIntegerConstant_least false
  · exact isIntegerConstant_int (by omega) hhigh

theorem isIntegerConstant_longLiteral {n : Int} (hlow : -9223372036854775808 ≤ n)
    (hhigh : n ≤ 9223372036854775807) : IsIntegerConstant (longLiteral n) n := by
  unfold longLiteral
  split_ifs with hleast
  · subst hleast
    exact isIntegerConstant_least true
  · exact isIntegerConstant_toString true (by simp [largest]; omega) hhigh

/-- A character literal is read as its character. -/
theorem isIntegerConstant_character {s : List Char} {c : Char}
    (h : characterLiteral? s = some (c.toNat, [])) :
    IsIntegerConstant (String.ofList ('\x27' :: s)) c.toNat := by
  refine ⟨[.character c.toNat], ?_, ?_, rfl⟩
  · rw [String.toList_ofList, tokens?_character h, tokens?]
    rfl
  · simp [sumFrom?, sumAfter?]

/-- A character is written as a literal or as a number, and either is read as its code point. -/
theorem isIntegerConstant_charLiteral (c : Char) : IsIntegerConstant (charLiteral c) c.toNat := by
  unfold charLiteral
  split_ifs with hescaped hprintable
  · refine isIntegerConstant_character ?_
    rw [Bool.or_eq_true, decide_eq_true_eq, decide_eq_true_eq] at hescaped
    rcases hescaped with rfl | rfl <;> rfl
  · rw [Bool.and_eq_true, decide_eq_true_eq, decide_eq_true_eq] at hprintable
    rw [Bool.or_eq_true, decide_eq_true_eq, decide_eq_true_eq, not_or] at hescaped
    have hends : endsLine c = false := by
      by_contra hends
      rw [Bool.not_eq_false] at hends
      rcases eq_of_endsLine hends with rfl | rfl
      · exact absurd hprintable.1 (by decide)
      · exact absurd hprintable.1 (by decide)
    have hlow : c.toNat < 128 := by omega
    refine isIntegerConstant_character ?_
    simp [characterLiteral?, closeCharacter?, hescaped, hends, hlow]
  · have hvalid : c.toNat < 0xd800 ∨ 0xdfff < c.toNat ∧ c.toNat < 0x110000 := c.valid
    exact isIntegerConstant_int (n := c.toNat) (by omega) (by omega)

end JniBindings.Cpp
