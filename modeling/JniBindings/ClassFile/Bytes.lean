/-!
# Reading bytes

A `Reader` takes values from the front of a list of bytes. Numbers are stored with the highest byte
first.
-/

namespace JniBindings.ClassFile

/-- Takes a value from the front of a list of bytes, if it is there. -/
abbrev Reader := StateT (List UInt8) Option

/-- One byte. -/
def u1 : Reader Nat
  | [] => none
  | b :: rest => some (b.toNat, rest)

/-- An unsigned number of two bytes. -/
def u2 : Reader Nat
  | b₁ :: b₀ :: rest => some (b₁.toNat * 256 + b₀.toNat, rest)
  | _ => none

/-- An unsigned number of four bytes. -/
def u4 : Reader Nat := do
  let high ← u2
  let low ← u2
  pure (high * 65536 + low)

/-- An unsigned number of eight bytes. -/
def u8 : Reader Nat := do
  let high ← u4
  let low ← u4
  pure (high * 4294967296 + low)

/-- A given number of bytes. -/
def bytes (n : Nat) : Reader (List UInt8) := fun s =>
  let taken := s.take n
  if taken.length = n then some (taken, s.drop n) else none

/-- A given number of values. -/
def times {α : Type} : Nat → Reader α → Reader (List α)
  | 0, _ => pure []
  | n + 1, read => do
    let a ← read
    let rest ← times n read
    pure (a :: rest)

/-- As many values as two bytes say. -/
def counted {α : Type} (read : Reader α) : Reader (List α) := do
  let n ← u2
  times n read

/-- The value that makes up a whole list of bytes. -/
def Reader.whole? {α : Type} (read : Reader α) (s : List UInt8) : Option α :=
  match read s with
  | some (a, []) => some a
  | _ => none

/-- A value that may not be there. -/
def present {α : Type} : Option α → Reader α
  | some a => pure a
  | none => fun _ => none

/-- A condition that has to hold. -/
def check (condition : Bool) : Reader Unit :=
  if condition then pure () else fun _ => none

end JniBindings.ClassFile
