import JniBindings.Failure
import JniBindings.Text.Segments
/-!
# Descriptors

The virtual machine writes a type as a descriptor (`I`, `[J`, `Ljava/lang/String;`) and the types
of a method as `(parameters)result`, with nothing between the parameters. `JavaType.descriptor` and
`MethodType.descriptor` write these texts, `JavaType.ofDescriptor` and `MethodType.ofDescriptor`
read them. A reader commits itself with every character it takes, so what it reports is whether the
text ended too early or went on with a character that fits nowhere.
-/

namespace JniBindings

/-- The letter that stands for a primitive type. -/
def Primitive.letter : Primitive → Char
  | boolean => 'Z'
  | byte => 'B'
  | char => 'C'
  | short => 'S'
  | int => 'I'
  | long => 'J'
  | float => 'F'
  | double => 'D'
  | void => 'V'

/-- The primitive type with a given letter. -/
def Primitive.ofLetter? (c : Char) : Option Primitive :=
  all.find? (·.letter = c)

theorem Primitive.ofLetter?_letter (p : Primitive) : ofLetter? p.letter = some p := by
  cases p <;> decide

/-- The types and result of a method, as the virtual machine sees them. -/
structure MethodType where
  parameters : List JavaType
  result : JavaType
deriving DecidableEq, Repr

namespace JavaType

/-! ### Writing -/

/-- The type has a descriptor: it is not made from the type of `null`. -/
def isDescribable (t : JavaType) : Bool := t.element ≠ null

/-- The characters of a descriptor; the type of `null` has none. -/
def descriptorChars : JavaType → List Char
  | primitive p => [p.letter]
  | array component => '[' :: component.descriptorChars
  | declared name => 'L' :: (Text.replaceChar '.' '/' name).toList ++ [';']
  | null => []

/-- The descriptor of a type. -/
def descriptor (t : JavaType) : Except Failure String :=
  if t.isDescribable then .ok (String.ofList t.descriptorChars)
  else .error (.unsupportedType "" null)

/-- The descriptors of several types, one after the other. -/
def listDescriptor (ts : List JavaType) : Except Failure String :=
  if ts.all isDescribable then .ok (String.ofList (ts.flatMap descriptorChars))
  else .error (.unsupportedType "" null)

/-! ### Reading -/

/-- Reads the class name after `L`, up to and including the `;`. At least one character stands
before the `;`, and every `/` separates packages. -/
def readClassName (s : List Char) : Except Stop (JavaType × List Char) :=
  let name := s.takeWhile (· ≠ ';')
  match s.dropWhile (· ≠ ';') with
  | [] => .error .endOfText
  | _ :: rest =>
    if name.isEmpty then .error .character
    else .ok (declared (Text.replaceChar '/' '.' (String.ofList name)), rest)

/-- Reads one descriptor from the front of a text. -/
def read : List Char → Except Stop (JavaType × List Char)
  | [] => .error .endOfText
  | '[' :: rest => do
    let (component, rest) ← read rest
    pure (array component, rest)
  | 'L' :: rest => readClassName rest
  | c :: rest => match Primitive.ofLetter? c with
    | some p => .ok (primitive p, rest)
    | none => .error .character

/-- The character begins a descriptor. -/
def beginsDescriptor (c : Char) : Bool :=
  c = '[' || c = 'L' || (Primitive.ofLetter? c).isSome

theorem length_lt_of_readClassName {s rest : List Char} {t : JavaType}
    (h : readClassName s = .ok (t, rest)) : rest.length < s.length := by
  simp only [readClassName] at h
  split at h
  · cases h
  · next c rest' hdrop =>
    split at h
    · cases h
    · cases h
      have hle : (s.dropWhile (· ≠ ';')).length ≤ s.length :=
        (List.dropWhile_sublist _).length_le
      rw [hdrop] at hle
      exact Nat.lt_of_lt_of_le (Nat.lt_succ_self _) hle

/-- Reading takes at least one character. -/
theorem length_lt_of_read {s rest : List Char} {t : JavaType} (h : read s = .ok (t, rest)) :
    rest.length < s.length := by
  fun_induction read s generalizing t rest with
  | case1 => cases h
  | case2 s ih =>
    cases hs : read s with
    | error stop => rw [hs] at h; cases h
    | ok pair =>
      obtain ⟨component, rest'⟩ := pair
      rw [hs] at h
      cases h
      exact Nat.lt_succ_of_lt (ih hs)
  | case3 s => exact Nat.lt_succ_of_lt (length_lt_of_readClassName h)
  | case4 c s _ _ p hp => cases h; exact Nat.lt_succ_self _
  | case5 => cases h

/-- Reads descriptors from the front of a text for as long as one begins. -/
def readMany (s : List Char) : Except Stop (List JavaType × List Char) :=
  match s with
  | [] => .ok ([], [])
  | c :: tail =>
    if beginsDescriptor c then
      match _h : read (c :: tail) with
      | .error stop => .error stop
      | .ok (t, rest) =>
        match readMany rest with
        | .error stop => .error stop
        | .ok (ts, rest) => .ok (t :: ts, rest)
    else .ok ([], c :: tail)
termination_by s.length
decreasing_by exact length_lt_of_read _h

end JavaType

/-- A reader's result, if nothing is left of the text. -/
def complete {α : Type} : Except Stop (α × List Char) → Except Stop α
  | .ok (a, []) => .ok a
  | .ok (_, _ :: _) => .error .character
  | .error stop => .error stop

/-- A reader's failure, as a fault in the text that was to be read. -/
def faultIn {α : Type} (kind : TypeText) (text : String) : Except Stop α → Except Failure α
  | .ok a => .ok a
  | .error stop => .error (.malformed (.stuck stop kind text))

/-- The type with a given descriptor. -/
def JavaType.ofDescriptor (text : String) : Except Failure JavaType :=
  faultIn .descriptor text (complete (JavaType.read text.toList))

namespace MethodType

/-- The descriptor of a method's type. -/
def descriptor (m : MethodType) : Except Failure String := do
  let parameters ← JavaType.listDescriptor m.parameters
  let result ← m.result.descriptor
  pure ("(" ++ parameters ++ ")" ++ result)

/-- Reads the descriptor of a method's type from the front of a text. -/
def read : List Char → Except Stop (MethodType × List Char)
  | [] => .error .endOfText
  | c :: rest =>
    if c ≠ '(' then .error .character
    else do
      let (parameters, rest) ← JavaType.readMany rest
      match rest with
      | [] => .error .endOfText
      | c :: rest =>
        if c ≠ ')' then .error .character
        else
          let (result, rest) ← JavaType.read rest
          pure (⟨parameters, result⟩, rest)

/-- The method type with a given descriptor. -/
def ofDescriptor (text : String) : Except Failure MethodType :=
  faultIn .methodDescriptor text (complete (read text.toList))

end MethodType

end JniBindings
