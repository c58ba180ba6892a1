import JniBindings.Proofs.Symbol.Decode
/-!
# When escaped names are the same

The escape of a character ends nowhere in particular: what follows an underscore is the digit one of
an escaped underscore or the digits of a code point, five of them or, from U+100000 on, six. A code
point that begins with a one is therefore written like an underscore in front of its other digits.
These are the only clashes: if such characters are replaced by just these characters (`unfolded`),
the escapes are read back one by one (`readBack_escape`), so two names have the same escape just if
they are the same after the replacement (`escape_eq_escape_iff`).
-/

namespace JniBindings

namespace Text

/-- The character with the code point that five hexadecimal digits give. -/
def ofFiveHexDigits (a b c d e : Char) : Char :=
  Char.ofNat ((((hexValue a * 16 + hexValue b) * 16 + hexValue c) * 16 + hexValue d) * 16
    + hexValue e)

theorem ofFiveHexDigits_hexDigit {c : Char} (h : c.toNat < 0x100000) :
    ofFiveHexDigits (hexDigit (c.toNat / 0x10000 % 16)) (hexDigit (c.toNat / 0x1000 % 16))
      (hexDigit (c.toNat / 0x100 % 16)) (hexDigit (c.toNat / 0x10 % 16)) (hexDigit (c.toNat % 16))
      = c := by
  have hdigit (n : Nat) : hexValue (hexDigit (n % 16)) = n % 16 :=
    hexValue_hexDigit _ (Nat.mod_lt n (by omega))
  have hvalue : (((c.toNat / 0x10000 % 16 * 16 + c.toNat / 0x1000 % 16) * 16
      + c.toNat / 0x100 % 16) * 16 + c.toNat / 0x10 % 16) * 16 + c.toNat % 16 = c.toNat := by omega
  rw [ofFiveHexDigits, hdigit, hdigit, hdigit, hdigit, hdigit, hvalue, Char.ofNat_toNat]

theorem hexDigit_inj : ∀ m < 16, ∀ n < 16, hexDigit m = hexDigit n → m = n := by decide

end Text

namespace Symbol

/-- The code point of the character is written with a one in front. -/
def LeadsWithOne (c : Char) : Prop :=
  (0x10000 ≤ c.toNat ∧ c.toNat < 0x20000) ∨ 0x100000 ≤ c.toNat

instance (c : Char) : Decidable (LeadsWithOne c) := inferInstanceAs (Decidable (_ ∨ _))

/-- The characters whose escapes, one after the other, are the escape of a given character. -/
def unfoldChar (c : Char) : List Char :=
  if LeadsWithOne c then '_' :: (Text.codePoint c).tail else [c]

/-- A name with every character whose code point begins with a one replaced by an underscore and the
other digits. -/
def unfolded (name : String) : String := write unfoldChar name

theorem codePoint_of_leadsWithOne {c : Char} (h : LeadsWithOne c) :
    Text.codePoint c = '1' :: (Text.codePoint c).tail := by
  have hlt := Text.toNat_lt c
  unfold LeadsWithOne at h
  unfold Text.codePoint
  split
  · have hone : c.toNat / 0x10000 % 16 = 1 := by omega
    rw [Text.fiveHexDigits, hone]
    rfl
  · have hone : c.toNat / 0x100000 = 1 := by omega
    rw [hone]
    rfl

theorem escapeChar_of_isAlphanum {c : Char} (h : c.isAlphanum) : escapeChar c = [c] := by
  have hne : c ≠ '_' := by
    rintro rfl
    exact absurd h (by decide)
  rw [escapeChar, if_neg hne, if_pos h]

theorem not_leadsWithOne_of_isAlphanum {c : Char} (h : c.isAlphanum) : ¬ LeadsWithOne c := by
  rw [isAlphanum_iff] at h
  unfold LeadsWithOne
  omega

theorem isAlphanum_of_mem_tail {c d : Char} (h : d ∈ (Text.codePoint c).tail) : d.isAlphanum :=
  Text.isAlphanum_of_mem_codePoint (List.mem_of_mem_tail h)

theorem escapeChar_eq_flatMap (c : Char) : escapeChar c = (unfoldChar c).flatMap escapeChar := by
  rw [unfoldChar]
  split
  · next h =>
    have hne : c ≠ '_' := by
      rintro rfl
      exact absurd h (by decide)
    have hdigits : (Text.codePoint c).tail.flatMap escapeChar = (Text.codePoint c).tail := by
      rw [List.flatMap_congr fun d hd => escapeChar_of_isAlphanum (isAlphanum_of_mem_tail hd),
        List.flatMap_singleton']
    rw [escapeChar, if_neg hne, if_neg fun hc => not_leadsWithOne_of_isAlphanum hc h,
      List.flatMap_cons, hdigits, codePoint_of_leadsWithOne h]
    rfl
  · rw [List.flatMap_singleton]

theorem escape_unfolded (name : String) : escape (unfolded name) = escape name := by
  rw [escape, escape, unfolded, write, write, write, String.toList_ofList, List.flatMap_assoc,
    List.flatMap_congr fun c _ => (escapeChar_eq_flatMap c).symm]

theorem not_leadsWithOne_of_mem_unfoldChar {c d : Char} (h : d ∈ unfoldChar c) :
    ¬ LeadsWithOne d := by
  rw [unfoldChar] at h
  split at h
  · rcases List.mem_cons.1 h with rfl | h
    · decide
    · exact not_leadsWithOne_of_isAlphanum (isAlphanum_of_mem_tail h)
  · next hc =>
    obtain rfl := List.mem_singleton.1 h
    exact hc

/-- Names without characters whose code points begin with a one stay as they are. -/
theorem unfolded_eq_self {name : String} (h : ∀ c ∈ name.toList, ¬ LeadsWithOne c) :
    unfolded name = name := by
  have hchar : ∀ c ∈ name.toList, unfoldChar c = [c] := fun c hc => if_neg (h c hc)
  rw [unfolded, write, List.flatMap_congr hchar, List.flatMap_singleton', String.ofList_toList]

/-! ### Reading back -/

/-- The characters that were escaped, where an underscore with a one behind it is always taken for
an underscore. -/
def readBack : List Char → List Char
  | [] => []
  | '_' :: '1' :: s => '_' :: readBack s
  | '_' :: a :: b :: c :: d :: e :: s => Text.ofFiveHexDigits a b c d e :: readBack s
  | c :: s => c :: readBack s

theorem readBack_letter {c : Char} (h : c ≠ '_') (s : List Char) :
    readBack (c :: s) = c :: readBack s := by
  simp [readBack, h]

theorem readBack_escaped {a : Char} (h : a ≠ '1') (b c d e : Char) (s : List Char) :
    readBack ('_' :: a :: b :: c :: d :: e :: s)
      = Text.ofFiveHexDigits a b c d e :: readBack s := by
  rw [readBack]
  exact h

theorem readBack_codePoint {c : Char} (h : ¬ LeadsWithOne c) (s : List Char) :
    readBack ('_' :: (Text.codePoint c ++ s)) = c :: readBack s := by
  unfold LeadsWithOne at h
  have hlow : c.toNat < 0x100000 := by omega
  have hone : Text.hexDigit (c.toNat / 0x10000 % 16) ≠ '1' := by
    intro heq
    have := Text.hexDigit_inj _ (Nat.mod_lt _ (by omega)) 1 (by omega) heq
    omega
  rw [Text.codePoint, if_pos hlow, Text.fiveHexDigits]
  exact (readBack_escaped hone _ _ _ _ s).trans
    (congrArg (· :: readBack s) (Text.ofFiveHexDigits_hexDigit hlow))

theorem readBack_escapeChar {c : Char} (h : ¬ LeadsWithOne c) (s : List Char) :
    readBack (escapeChar c ++ s) = c :: readBack s := by
  rw [escapeChar]
  split
  · next hc =>
    rw [hc]
    rfl
  · next hc =>
    split
    · exact readBack_letter hc s
    · exact readBack_codePoint h s

theorem readBack_flatMap {s : List Char} (h : ∀ c ∈ s, ¬ LeadsWithOne c) :
    readBack (s.flatMap escapeChar) = s := by
  induction s with
  | nil => rfl
  | cons c s ih =>
    rw [List.flatMap_cons, readBack_escapeChar (h c List.mem_cons_self),
      ih fun d hd => h d (List.mem_cons_of_mem c hd)]

/-- What is read back from an escaped name is the name with the clashing characters replaced. -/
theorem readBack_escape (name : String) :
    readBack (escape name).toList = (unfolded name).toList := by
  rw [← escape_unfolded, escape, write, String.toList_ofList]
  refine readBack_flatMap fun d hd => ?_
  rw [unfolded, write, String.toList_ofList, List.mem_flatMap] at hd
  obtain ⟨c, -, hd⟩ := hd
  exact not_leadsWithOne_of_mem_unfoldChar hd

theorem escape_eq_escape_iff {a b : String} : escape a = escape b ↔ unfolded a = unfolded b := by
  constructor
  · intro h
    rw [← String.toList_inj, ← readBack_escape, h, readBack_escape]
  · intro h
    rw [← escape_unfolded a, h, escape_unfolded]

theorem short_inj {className a b : String} :
    short className a = short className b ↔ escape a = escape b := by
  simp [short]

/-- Names have different escapes, and native methods with these names different symbols in every
class, unless they are the same once every character whose code point begins with a one is replaced
by an underscore and the other digits. Names without such characters stay as they are. -/
theorem escape_ne_escape {a b : String} (h : unfolded a ≠ unfolded b) :
    escape a ≠ escape b ∧ (∀ className, short className a ≠ short className b)
      ∧ ∀ name, (∀ c ∈ name.toList, ¬ LeadsWithOne c) → unfolded name = name := by
  have hne : escape a ≠ escape b := fun heq => h (escape_eq_escape_iff.1 heq)
  exact ⟨hne, fun className heq => hne (short_inj.1 heq), fun name => unfolded_eq_self⟩

/-- The names have two characters whose code points begin with a one, and differ by a digit behind
an underscore. -/
theorem escape_ne_escape_clef :
    unfolded "é𝄞_1中$😀" ≠ unfolded "é𝄞_11中$😀"
      ∧ escape "é𝄞_1中$😀" ≠ escape "é𝄞_11中$😀"
      ∧ short "a_B" "é𝄞_1中$😀" ≠ short "a_B" "é𝄞_11中$😀" := by
  have hne : unfolded "é𝄞_1中$😀" ≠ unfolded "é𝄞_11中$😀" := by decide +kernel
  obtain ⟨hescape, hshort, -⟩ := escape_ne_escape hne
  exact ⟨hne, hescape, hshort "a_B"⟩

/-- Different names have the same escape, and so the same symbol in a class: U+1F600 and an
underscore in front of `f600`, and the first code point of six digits and U+10000 in front of a
zero. -/
theorem exists_escape_eq :
    ("😀" ≠ "_f600" ∧ escape "😀" = "_1f600" ∧ escape "_f600" = "_1f600"
        ∧ short "a_B" "😀" = short "a_B" "_f600")
      ∧ ∃ a b : Char, a.toNat = 0x100000 ∧ b.toNat = 0x10000
        ∧ String.ofList [a] ≠ String.ofList [b, '0']
        ∧ escape (String.ofList [a]) = escape (String.ofList [b, '0']) :=
  ⟨by decide +kernel, Char.ofNat 0x100000, Char.ofNat 0x10000, by decide +kernel⟩

end Symbol

end JniBindings
