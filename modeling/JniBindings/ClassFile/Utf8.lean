/-!
# Texts in class files

Class files store texts in a variant of UTF-8 that writes NUL as two bytes and a character beyond
U+FFFF as a surrogate pair of three bytes each. `decodeText` reads this variant, and also plain
UTF-8, but no mixture of the two.
-/

namespace JniBindings.ClassFile

/-- A byte that continues a character. -/
def isContinuation (b : UInt8) : Bool := 0x80 ≤ b.toNat && b.toNat < 0xc0

/-- The six bits that a continuation byte adds to a number. -/
def continued (n : Nat) (b : UInt8) : Nat := n * 0x40 + b.toNat % 0x40

/-- The UTF-16 unit that is written in the second half of a surrogate pair. -/
def isPairEnd (n : Nat) : Bool := 0xdc00 ≤ n && n < 0xe000

/-- The characters of a text in the variant of class files. -/
def decodeVariant : List UInt8 → Option (List Char)
  | [] => some []
  | a :: rest =>
    if a = 0 then none
    else if a.toNat < 0x80 then (decodeVariant rest).map (Char.ofNat a.toNat :: ·)
    else match rest with
      | [] => none
      | b :: rest =>
        if a = 0xc0 then
          if b = 0x80 then (decodeVariant rest).map ('\x00' :: ·) else none
        else if !isContinuation b then none
        else if 0xc2 ≤ a.toNat && a.toNat < 0xe0 then
          (decodeVariant rest).map (Char.ofNat (continued (a.toNat - 0xc0) b) :: ·)
        else if a.toNat < 0xe0 || 0xf0 ≤ a.toNat then none
        else match rest with
          | [] => none
          | c :: rest =>
            let unit := continued (continued (a.toNat - 0xe0) b) c
            if !isContinuation c || unit < 0x800 || isPairEnd unit then none
            else if unit < 0xd800 || 0xdc00 ≤ unit then
              (decodeVariant rest).map (Char.ofNat unit :: ·)
            else match rest with
              | d :: e :: f :: rest =>
                let second := continued (continued (d.toNat - 0xe0) e) f
                if d = 0xed && isContinuation e && isContinuation f && isPairEnd second then
                  let c := Char.ofNat (0x10000 + (unit - 0xd800) * 0x400 + (second - 0xdc00))
                  (decodeVariant rest).map (c :: ·)
                else none
              | _ => none

/-- The text that bytes stand for. -/
def decodeText (s : List UInt8) : Option String :=
  match String.fromUTF8? ⟨s.toArray⟩ with
  | some text => some text
  | none => (decodeVariant s).map String.ofList

end JniBindings.ClassFile
