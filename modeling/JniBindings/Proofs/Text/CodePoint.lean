import JniBindings.Proofs.Word
import JniBindings.Text.CodePoint
/-!
# Reading code points

A character is found again from the hexadecimal digits of its code point. A code point of at most
U+FFFF is written with a zero in front of its four digits.
-/

namespace JniBindings.Text

/-- The number that a hexadecimal digit stands for. -/
def hexValue (c : Char) : Nat := if c.toNat < 58 then c.toNat - 48 else c.toNat - 87

theorem hexValue_hexDigit : ∀ n < 16, hexValue (hexDigit n) = n := by decide

theorem isAlphanum_hexDigit : ∀ n < 16, (hexDigit n).isAlphanum = true := by decide

/-- The character with the code point that four hexadecimal digits give. -/
def ofFourHexDigits (a b c d : Char) : Char :=
  Char.ofNat (((hexValue a * 16 + hexValue b) * 16 + hexValue c) * 16 + hexValue d)

theorem codePoint_of_le {c : Char} (h : c.toNat ≤ 0xFFFF) :
    codePoint c = ['0', hexDigit (c.toNat / 0x1000 % 16), hexDigit (c.toNat / 0x100 % 16),
      hexDigit (c.toNat / 0x10 % 16), hexDigit (c.toNat % 16)] := by
  have hlow : c.toNat < 0x100000 := by omega
  have hzero : c.toNat / 0x10000 % 16 = 0 := by omega
  rw [codePoint, if_pos hlow, fiveHexDigits, hzero]
  rfl

theorem ofFourHexDigits_hexDigit {c : Char} (h : c.toNat ≤ 0xFFFF) :
    ofFourHexDigits (hexDigit (c.toNat / 0x1000 % 16)) (hexDigit (c.toNat / 0x100 % 16))
      (hexDigit (c.toNat / 0x10 % 16)) (hexDigit (c.toNat % 16)) = c := by
  have hdigit (n : Nat) : hexValue (hexDigit (n % 16)) = n % 16 :=
    hexValue_hexDigit _ (Nat.mod_lt n (by omega))
  have hvalue : ((c.toNat / 0x1000 % 16 * 16 + c.toNat / 0x100 % 16) * 16
      + c.toNat / 0x10 % 16) * 16 + c.toNat % 16 = c.toNat := by omega
  rw [ofFourHexDigits, hdigit, hdigit, hdigit, hdigit, hvalue, Char.ofNat_toNat]

theorem toNat_lt (c : Char) : c.toNat < 0x110000 := by
  have hvalid := c.valid
  simp only [UInt32.isValidChar, Nat.isValidChar] at hvalid
  change c.val.toNat < 0x110000
  omega

theorem isAlphanum_of_mem_codePoint {c d : Char} (h : d ∈ codePoint c) : d.isAlphanum = true := by
  have hdigit (n : Nat) : (hexDigit (n % 16)).isAlphanum = true :=
    isAlphanum_hexDigit _ (Nat.mod_lt n (by omega))
  have hfive {n : Nat} (h : d ∈ fiveHexDigits n) : d.isAlphanum = true := by
    simp only [fiveHexDigits, List.mem_cons, List.not_mem_nil, or_false] at h
    rcases h with rfl | rfl | rfl | rfl | rfl <;> exact hdigit _
  have hhigh : c.toNat / 0x100000 < 16 := by
    have hlt := toNat_lt c
    omega
  rw [codePoint] at h
  split at h
  · exact hfive h
  · rcases List.mem_cons.1 h with rfl | h
    · exact isAlphanum_hexDigit _ hhigh
    · exact hfive h

end JniBindings.Text
