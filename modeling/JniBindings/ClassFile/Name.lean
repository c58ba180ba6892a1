import JniBindings.Text.Segments
/-!
# Names and descriptors in class files

Which texts a class file may use as the names of classes and members and as their descriptors. A
descriptor of a member may be followed by other text, which is not part of it: `fieldDescriptor?`
and `methodDescriptor?` give the descriptor itself. In the constant pool a descriptor stands alone.
-/

namespace JniBindings.ClassFile

/-- A name without package: not empty, and without `.`, `;`, `[` and `/`. -/
def isUnqualified (name : List Char) : Bool :=
  !name.isEmpty && name.all fun c => c ≠ '.' && c ≠ ';' && c ≠ '[' && c ≠ '/'

/-- A name of a class with its packages in front, separated by `/`. -/
def isBinaryName (name : List Char) : Bool :=
  (Text.splitOn '/' name).all isUnqualified

/-- The name has no angle brackets. -/
def lacksAngles (name : List Char) : Bool :=
  name.all fun c => c ≠ '<' && c ≠ '>'

/-- A name of a class where members are declared, or in a descriptor. -/
def isClassName (name : List Char) : Bool :=
  isBinaryName name && lacksAngles name

/-- The letters of the types that a field can have. -/
def isBaseLetter (c : Char) : Bool := "BCDFIJSZ".toList.contains c

/-- What follows the field descriptor at the front of a text. An array has at most 255
dimensions. -/
def afterField? (s : List Char) : Option (List Char) :=
  if 255 < (s.takeWhile (· = '[')).length then none
  else match s.dropWhile (· = '[') with
    | [] => none
    | c :: rest =>
      if c = 'L' then
        match rest.dropWhile (· ≠ ';') with
        | [] => none
        | _ :: after => if isClassName (rest.takeWhile (· ≠ ';')) then some after else none
      else if isBaseLetter c then some rest
      else none

theorem length_lt_of_afterField? {s rest : List Char} (h : afterField? s = some rest) :
    rest.length < s.length := by
  have hle (p : Char → Bool) (s : List Char) : (s.dropWhile p).length ≤ s.length :=
    (List.dropWhile_sublist p).length_le
  have h₁ := hle (· = '[') s
  simp only [afterField?] at h
  split at h
  · cases h
  · split at h
    · cases h
    · next c tail hs =>
      rw [hs] at h₁
      split at h
      · have h₂ := hle (· ≠ ';') tail
        split at h
        · cases h
        · next d after ht =>
          rw [ht] at h₂
          simp only [List.length_cons] at h₁ h₂
          split at h
          · cases h; omega
          · cases h
      · split at h
        · cases h
          exact h₁
        · cases h

/-- What follows the parameters of a method descriptor and the `)` after them. -/
def afterParameters? (s : List Char) : Option (List Char) :=
  match s with
  | ')' :: rest => some rest
  | s => match h : afterField? s with
    | some rest =>
      have := length_lt_of_afterField? h
      afterParameters? rest
    | none => none
termination_by s.length

/-- What follows the method descriptor at the front of a text. Nothing may follow the result
`void`. -/
def afterMethod? : List Char → Option (List Char)
  | '(' :: rest => do
    match ← afterParameters? rest with
    | ['V'] => some []
    | result => afterField? result
  | _ => none

/-- The front of a text, up to where something else follows. -/
def before (s rest : List Char) : String :=
  String.ofList (s.take (s.length - rest.length))

/-- The descriptor of a field. -/
def fieldDescriptor? (text : String) : Option String :=
  (afterField? text.toList).map (before text.toList)

/-- The descriptor of a method. -/
def methodDescriptor? (text : String) : Option String :=
  (afterMethod? text.toList).map (before text.toList)

/-- A field descriptor in the constant pool. -/
def isFieldDescriptor (text : String) : Bool :=
  afterField? text.toList = some []

/-- A method descriptor in the constant pool. -/
def isMethodDescriptor (text : String) : Bool :=
  afterMethod? text.toList = some []

/-- A class in the constant pool: a class by name, or an array by its descriptor. -/
def isClassEntry (text : String) : Bool :=
  isBinaryName text.toList || (text.toList.head? = some '[' && isFieldDescriptor text)

/-- A name of a method: one of the two special names, or a name without angle brackets. -/
def isMethodName (name : String) : Bool :=
  name = "<init>" || name = "<clinit>"
    || (isUnqualified name.toList && lacksAngles name.toList)

end JniBindings.ClassFile
