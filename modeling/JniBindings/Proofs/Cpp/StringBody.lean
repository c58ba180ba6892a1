import JniBindings.Proofs.Cpp.Literal
import Mathlib.Data.List.Chain
/-!
# Texts in string literals

A text is written between the quotes of a string literal with simple escapes and octal escapes.
`Spells` is the grammar of such bodies, and `IsLiteralBody` says that nothing in one ends the
literal or could be taken for something else. What is written for a text spells this text and no
other, and every compiler reads it back (`stringBody_reads_back`). An octal escape takes the digits
behind it as far as it can, so the proof is an induction along the text that leaves open what
follows.
-/

namespace JniBindings.Cpp

/-! ### The grammar -/

/-- A text is spelled by the body of a string literal in which backslashes begin simple escapes and
octal escapes only. An octal escape has as many digits as follow each other, but at most three. -/
inductive Spells : List Char → List Char → Prop
  | nil : Spells [] []
  | ordinary {c : Char} {body text : List Char} (hc : isOrdinary c) (h : Spells body text) :
    Spells (c :: body) (c :: text)
  | simple {c d : Char} {body text : List Char} (hd : simpleEscape? d = some c)
    (h : Spells body text) : Spells ('\\' :: d :: body) (c :: text)
  | octal {digits body text : List Char} (hdigits : ∀ d ∈ digits, digitValue d < 8)
    (hleast : 1 ≤ digits.length)
    (hmost : digits.length = 3 ∨ digits.length < 3 ∧ ∀ d ∈ body.head?, 8 ≤ digitValue d)
    (hvalue : numberOf 8 digits < 128) (h : Spells body text) :
    Spells ('\\' :: (digits ++ body)) (Char.ofNat (numberOf 8 digits) :: text)

/-- Read from its start, the text ends with a backslash that escapes what follows. -/
def opensEscape (front : List Char) : Bool :=
  front.foldl (fun isOpen c => !isOpen && c = '\\') false

/-- The character, behind a backslash, begins a simple escape or an octal escape. -/
def beginsEscape (d : Char) : Bool := (simpleEscape? d).isSome || digitValue d < 8

/-- The text can stand between the quotes of a string literal. Quotes in it are escaped, it does not
leave its line, backslashes that are not escaped begin escapes, and there is no beginning of a
trigraph. -/
structure IsLiteralBody (body : List Char) : Prop where
  quote : ∀ front rest, body = front ++ '"' :: rest → opensEscape front
  lineEnd : '\n' ∉ body ∧ '\r' ∉ body
  backslash : ∀ front rest, body = front ++ '\\' :: rest → opensEscape front = false →
    ∃ d ∈ rest.head?, beginsEscape d
  trigraph : ¬ ['?', '?'] <:+: body

/-! ### Octal digits -/

/-- What holds of the eight octal digits holds of each that is written. -/
theorem forall_octalDigit {p : Char → Prop} (h : ∀ k < 8, p (Char.ofNat ('0'.toNat + k)))
    (n : Nat) : p (octalDigit n) :=
  h (n % 8) (Nat.mod_lt n (by decide))

theorem digitValue_octalDigit (n : Nat) : digitValue (octalDigit n) = n % 8 := by
  have hvalue : ∀ k < 8, digitValue (Char.ofNat ('0'.toNat + k)) = k := by decide
  exact hvalue (n % 8) (Nat.mod_lt n (by decide))

theorem octalDigit_digitValue {c : Char} (h : digitValue c < 8) :
    octalDigit (digitValue c) = c := by
  have hzero : '0'.toNat ≤ c.toNat ∧ digitValue c = c.toNat - '0'.toNat := by
    unfold digitValue at h ⊢
    split_ifs at h ⊢ with hdigit
    · exact ⟨hdigit.1, rfl⟩
    all_goals omega
  rw [octalDigit, Nat.mod_eq_of_lt h, hzero.2, Nat.add_sub_cancel' hzero.1, Char.ofNat_toNat]

theorem isOrdinary_of_digitValue_lt {c : Char} (h : digitValue c < 8) : isOrdinary c := by
  rw [← octalDigit_digitValue h]
  exact forall_octalDigit (p := fun c => isOrdinary c) (by decide) _

/-- An octal digit after a backslash begins a number. -/
theorem escape?_octalDigit (n : Nat) (rest : List Char) :
    escape? (octalDigit n :: rest)
      = (leadingNumber? 8 1 3 (octalDigit n :: rest)).bind (charBelow? 0x80) := by
  obtain ⟨hsimple, hx, hu, hU⟩ := forall_octalDigit
    (p := fun c => simpleEscape? c = none ∧ c ≠ 'x' ∧ c ≠ 'u' ∧ c ≠ 'U') (by decide) n
  simp only [escape?, hsimple, hx, hu, hU, if_false]

theorem leadingNumber?_append {base least most : Nat} {digits rest : List Char}
    (hdigits : ∀ c ∈ digits, digitValue c < base) (hleast : least ≤ digits.length)
    (hmost : digits.length = most
      ∨ digits.length < most ∧ ∀ c ∈ rest.head?, base ≤ digitValue c) :
    leadingNumber? base least most (digits ++ rest) = some (numberOf base digits, rest) := by
  have hnext : (rest.take (most - digits.length)).takeWhile (digitValue · < base) = [] := by
    rcases hmost with hfull | ⟨hlt, hhead⟩
    · rw [hfull, Nat.sub_self, List.take_zero, List.takeWhile_nil]
    · cases rest with
      | nil => rw [List.take_nil, List.takeWhile_nil]
      | cons c rest =>
        have hc : ¬ digitValue c < base := Nat.not_lt.2 (hhead c rfl)
        obtain ⟨k, hk⟩ : ∃ k, most - digits.length = k + 1 := ⟨_, (Nat.succ_pred (by omega)).symm⟩
        rw [hk, List.take_succ_cons, List.takeWhile_cons_of_neg (by simpa using hc)]
  have htaken : ((digits ++ rest).take most).takeWhile (digitValue · < base) = digits := by
    have hle : digits.length ≤ most := by omega
    rw [List.take_append, List.take_of_length_le hle, List.takeWhile_append_of_pos, hnext,
      List.append_nil]
    exact fun c hc => decide_eq_true (hdigits c hc)
  simp only [leadingNumber?, htaken]
  rw [if_neg (by omega), List.drop_left]

theorem escape?_append {digits body : List Char} (hdigits : ∀ d ∈ digits, digitValue d < 8)
    (hleast : 1 ≤ digits.length)
    (hmost : digits.length = 3 ∨ digits.length < 3 ∧ ∀ d ∈ body.head?, 8 ≤ digitValue d)
    (hvalue : numberOf 8 digits < 128) :
    escape? (digits ++ body) = some (Char.ofNat (numberOf 8 digits), body) := by
  have hleading := leadingNumber?_append hdigits hleast hmost
  cases digits with
  | nil => cases hleast
  | cons d digits =>
    have hd := octalDigit_digitValue (hdigits d List.mem_cons_self)
    have hvalid : (numberOf 8 (d :: digits)).isValidChar := Or.inl (by omega)
    rw [List.cons_append] at hleading ⊢
    rw [← hd, escape?_octalDigit, hd, hleading, Option.bind_some, charBelow?,
      if_pos ⟨hvalue, hvalid⟩]

/-! ### Bodies that spell texts -/

theorem readBody_of_spells {body text : List Char} (h : Spells body text) :
    readBody body = some text := by
  induction h with
  | nil => rw [readBody]
  | ordinary hc _ ih =>
    rw [readBody_cons hc, ih]
    rfl
  | @simple c d body _ hd _ ih =>
    have hescape : escape? (d :: body) = some (c, body) := by rw [escape?, hd]
    rw [readBody_escape hescape, ih]
    rfl
  | octal hdigits hleast hmost hvalue _ ih =>
    rw [readBody_escape (escape?_append hdigits hleast hmost hvalue), ih]
    rfl

theorem endsLine_of_simpleEscape? {c d : Char} (h : simpleEscape? d = some c) :
    endsLine d = false := by
  by_contra hends
  rw [Bool.not_eq_false] at hends
  rcases eq_of_endsLine hends with rfl | rfl <;> cases h

theorem endsLine_of_spells {body text : List Char} (h : Spells body text) :
    ∀ c ∈ body, endsLine c = false := by
  induction h with
  | nil => nofun
  | ordinary hc _ ih => exact List.forall_mem_cons.2 ⟨endsLine_of_isOrdinary hc, ih⟩
  | simple hd _ ih =>
    exact List.forall_mem_cons.2 ⟨rfl, List.forall_mem_cons.2 ⟨endsLine_of_simpleEscape? hd, ih⟩⟩
  | octal hdigits _ _ _ _ ih =>
    refine List.forall_mem_cons.2 ⟨rfl, List.forall_mem_append.2 ⟨fun d hd => ?_, ih⟩⟩
    exact endsLine_of_isOrdinary (isOrdinary_of_digitValue_lt (hdigits d hd))

/-- Every character that is not escaped stands for itself or is the backslash of an escape. -/
def IsCompletelyRead (body : List Char) : Prop :=
  ∀ front c rest, body = front ++ c :: rest → opensEscape front = false →
    isOrdinary c ∨ c = '\\' ∧ ∃ d ∈ rest.head?, beginsEscape d

theorem IsCompletelyRead.cons {c : Char} {body : List Char} (hc : isOrdinary c)
    (h : IsCompletelyRead body) : IsCompletelyRead (c :: body) := by
  rintro (_ | ⟨e, front⟩) d rest hbody hfront
  · obtain ⟨rfl, -⟩ := List.cons.inj hbody
    exact .inl hc
  · obtain ⟨he, hbody⟩ := List.cons.inj hbody
    have hne : e ≠ '\\' := he ▸ ne_backslash_of_isOrdinary hc
    exact h front d rest hbody (by simpa [opensEscape, hne] using hfront)

theorem IsCompletelyRead.append {front body : List Char} (hfront : ∀ c ∈ front, isOrdinary c)
    (h : IsCompletelyRead body) : IsCompletelyRead (front ++ body) := by
  induction front with
  | nil => exact h
  | cons c front ih =>
    obtain ⟨hc, hfront⟩ := List.forall_mem_cons.1 hfront
    exact (ih hfront).cons hc

theorem IsCompletelyRead.escape {d : Char} {body : List Char} (hd : beginsEscape d)
    (h : IsCompletelyRead body) : IsCompletelyRead ('\\' :: d :: body) := by
  rintro (_ | ⟨e, _ | ⟨e', front⟩⟩) c rest hbody hfront
  · obtain ⟨rfl, rfl⟩ := List.cons.inj hbody
    exact .inr ⟨rfl, d, rfl, hd⟩
  · obtain ⟨he, -⟩ := List.cons.inj hbody
    rw [← he] at hfront
    cases hfront
  · obtain ⟨he, hbody⟩ := List.cons.inj hbody
    rw [← he] at hfront
    exact h front c rest (List.cons.inj hbody).2 (by simpa [opensEscape] using hfront)

theorem isCompletelyRead_of_spells {body text : List Char} (h : Spells body text) :
    IsCompletelyRead body := by
  induction h with
  | nil => rintro front c rest hbody -; simp at hbody
  | ordinary hc _ ih => exact ih.cons hc
  | simple hd _ ih => exact ih.escape (by rw [beginsEscape, hd]; rfl)
  | @octal digits body _ hdigits hleast _ _ _ ih =>
    -- the digits after the first one would stand for themselves
    obtain ⟨d, digits, rfl⟩ := List.exists_cons_of_length_pos hleast
    obtain ⟨hd, hdigits⟩ := List.forall_mem_cons.1 hdigits
    have hrest : IsCompletelyRead (digits ++ body) := ih.append fun e he =>
      isOrdinary_of_digitValue_lt (hdigits e he)
    exact hrest.escape (by simp [beginsEscape, hd])

theorem isLiteralBody_of_spells {body text : List Char} (h : Spells body text)
    (htrigraph : ¬ ['?', '?'] <:+: body) : IsLiteralBody body where
  quote front rest hbody := by
    by_contra hfront
    rcases isCompletelyRead_of_spells h front '"' rest hbody (Bool.not_eq_true _ ▸ hfront) with
      hc | ⟨hc, -⟩
    · cases hc
    · cases hc
  lineEnd := ⟨fun hc => absurd (endsLine_of_spells h _ hc) (by decide),
    fun hc => absurd (endsLine_of_spells h _ hc) (by decide)⟩
  backslash front rest hbody hfront := by
    rcases isCompletelyRead_of_spells h front '\\' rest hbody hfront with hc | ⟨-, hd⟩
    · cases hc
    · exact hd
  trigraph := htrigraph

/-- A body without the beginning of a trigraph is read by every compiler as the text that it
spells. -/
theorem denotes_of_spells {body text : String} (h : Spells body.toList text.toList)
    (htrigraph : ¬ ['?', '?'] <:+: body.toList) : Denotes body text := by
  intro trigraphs
  have hreplace : replaceTrigraphs body.toList = body.toList :=
    replaceTrigraphs_eq_self fun c _ hinfix =>
      htrigraph ((List.prefix_append ['?', '?'] [c]).isInfix.trans hinfix)
  rw [denoted?, hreplace, ite_self, joinLines_of_forall (endsLine_of_spells h),
    readBody_of_spells h, Option.map_some, String.ofList_toList]

/-! ### What is written for a text -/

/-- How a character is written in a string literal: after a backslash, as three octal digits after a
backslash, or as it is. -/
theorem stringChar_cases (c : Char) :
    (∃ d, simpleEscape? d = some c ∧ stringChar c = ['\\', d])
      ∨ (c.toNat < 128 ∧ stringChar c
        = ['\\', octalDigit (c.toNat / 64), octalDigit (c.toNat / 8), octalDigit c.toNat])
      ∨ (isOrdinary c ∧ c ≠ '?' ∧ stringChar c = [c]) := by
  unfold stringChar
  split_ifs with hquote hbackslash hn hr ht hquestion hcontrol
  · exact .inl ⟨'"', by rw [hquote]; rfl, rfl⟩
  · exact .inl ⟨'\\', by rw [hbackslash]; rfl, rfl⟩
  · exact .inl ⟨'n', by rw [hn]; rfl, rfl⟩
  · exact .inl ⟨'r', by rw [hr]; rfl, rfl⟩
  · exact .inl ⟨'t', by rw [ht]; rfl, rfl⟩
  · exact .inl ⟨'?', by rw [hquestion]; rfl, rfl⟩
  · rw [Bool.or_eq_true, decide_eq_true_eq, decide_eq_true_eq] at hcontrol
    exact .inr (.inl ⟨by omega, rfl⟩)
  · exact .inr (.inr ⟨by simp [isOrdinary, endsLine, hquote, hbackslash, hn, hr], hquestion, rfl⟩)

theorem spells_stringChar (c : Char) {body text : List Char} (h : Spells body text) :
    Spells (stringChar c ++ body) (c :: text) := by
  rcases stringChar_cases c with ⟨d, hd, hc⟩ | ⟨hlow, hc⟩ | ⟨hordinary, -, hc⟩
  · rw [hc]
    exact .simple hd h
  · have hdigits : ∀ d ∈ [octalDigit (c.toNat / 64), octalDigit (c.toNat / 8), octalDigit c.toNat],
        digitValue d < 8 := by
      simp only [List.forall_mem_cons, digitValue_octalDigit]
      exact ⟨by omega, by omega, by omega, nofun⟩
    have hnumber : numberOf 8 [octalDigit (c.toNat / 64), octalDigit (c.toNat / 8),
        octalDigit c.toNat] = c.toNat := by
      simp only [numberOf, List.foldl_cons, List.foldl_nil, digitValue_octalDigit]
      omega
    -- three digits are all that an octal escape can take, whatever follows
    have hspells := Spells.octal hdigits (by simp) (.inl rfl) (by rwa [hnumber]) h
    rw [hnumber, Char.ofNat_toNat] at hspells
    rw [hc]
    exact hspells
  · rw [hc]
    exact .ordinary hordinary h

/-- Question marks are written behind backslashes only. -/
theorem isChain_stringChar (c : Char) :
    (stringChar c).IsChain (fun a b => ¬ (a = '?' ∧ b = '?'))
      ∧ (stringChar c).head? ≠ some '?' := by
  have hoctal (n : Nat) : octalDigit n ≠ '?' :=
    forall_octalDigit (p := fun d => d ≠ '?') (by decide) n
  rcases stringChar_cases c with ⟨d, -, h⟩ | ⟨-, h⟩ | ⟨-, hc, h⟩
  · simp [h]
  · simp [h, hoctal]
  · simp [h, hc]

theorem isChain_flatMap_stringChar (s : List Char) :
    (s.flatMap stringChar).IsChain (fun a b => ¬ (a = '?' ∧ b = '?'))
      ∧ (s.flatMap stringChar).head? ≠ some '?' := by
  induction s with
  | nil => exact ⟨.nil, nofun⟩
  | cons c s ih =>
    obtain ⟨hchain, hhead⟩ := isChain_stringChar c
    rw [List.flatMap_cons]
    refine ⟨List.isChain_append.2 ⟨hchain, ih.1, ?_⟩, ?_⟩
    · rintro a - b hb ⟨-, rfl⟩
      exact ih.2 hb
    · rw [List.head?_append]
      rcases hc : (stringChar c).head? with _ | d
      · exact ih.2
      · rw [← hc]
        simpa [hc] using hhead

theorem spells_stringBody (s : String) : Spells (stringBody s).toList s.toList := by
  have hspells (t : List Char) : Spells (t.flatMap stringChar) t := by
    induction t with
    | nil => exact .nil
    | cons c t ih => exact spells_stringChar c ih
  rw [stringBody, String.toList_ofList]
  exact hspells s.toList

theorem not_infix_stringBody (s : String) : ¬ ['?', '?'] <:+: (stringBody s).toList := by
  rw [stringBody, String.toList_ofList]
  rintro ⟨front, back, hbody⟩
  have hchain := (isChain_flatMap_stringChar s.toList).1
  rw [← hbody] at hchain
  have hquestions := hchain.left_of_append.right_of_append
  simp at hquestions

/-- What has been written with escapes is read back, whatever the text holds. -/
theorem denotes_stringBody (s : String) : Denotes (stringBody s) s :=
  denotes_of_spells (spells_stringBody s) (not_infix_stringBody s)

/-- What is written for a text between the quotes of a string literal spells this text and no other,
and every compiler reads it back. Nothing in it ends the literal, is left of an escape, or could be
taken for a trigraph. So different texts are written differently. -/
theorem stringBody_reads_back (s : String) :
    (∀ text, Spells (stringBody s).toList text.toList ↔ text = s) ∧ Denotes (stringBody s) s
      ∧ IsLiteralBody (stringBody s).toList ∧ ∀ t, stringBody t = stringBody s → t = s := by
  have hspells := spells_stringBody s
  refine ⟨fun text => ⟨fun h => ?_, ?_⟩, denotes_stringBody s,
    isLiteralBody_of_spells hspells (not_infix_stringBody s), fun t ht => ?_⟩
  · have hread := (readBody_of_spells h).symm.trans (readBody_of_spells hspells)
    exact String.toList_inj.1 (Option.some.inj hread)
  · rintro rfl
    exact hspells
  · have hread := denotes_stringBody t true
    rw [ht, denotes_stringBody s true] at hread
    exact (Option.some.inj hread).symm

/-- With fewer digits the escape would take the seven. -/
example : stringBody "\x017" = "\\0017" ∧ denoted? true "\\0017" = some "\x017"
    ∧ denoted? true "\\17" = some "\x0f" := by
  decide +kernel

end JniBindings.Cpp
