/-!
# Cutting texts

`splitOn` cuts a text at every occurrence of a separator, `cutAt` at the first occurrence of a
marker, `lines` into its lines, and `replaceChar` puts one character in place of another.
-/

namespace JniBindings.Text

/-- The parts of a text between separators: one more part than there are separators. -/
def splitOn (separator : Char) : List Char → List (List Char)
  | [] => [[]]
  | c :: rest =>
    if c = separator then [] :: splitOn separator rest
    else match splitOn separator rest with
      | [] => [[c]]
      | part :: parts => (c :: part) :: parts

theorem splitOn_ne_nil (separator : Char) (s : List Char) : splitOn separator s ≠ [] := by
  cases s with
  | nil => simp [splitOn]
  | cons c rest =>
    simp only [splitOn]
    split
    · simp
    · split <;> simp

/-- What follows a given beginning, if the text begins that way. -/
def dropStart? : List Char → List Char → Option (List Char)
  | [], s => some s
  | _ :: _, [] => none
  | c :: start, d :: s => if c = d then dropStart? start s else none

theorem dropStart?_append (start s : List Char) : dropStart? start (start ++ s) = some s := by
  induction start with
  | nil => rfl
  | cons c start ih => simp [dropStart?, ih]

theorem dropStart?_eq_some_iff {start s rest : List Char} :
    dropStart? start s = some rest ↔ s = start ++ rest := by
  constructor
  · intro h
    induction start generalizing s with
    | nil => simpa [dropStart?] using h
    | cons c start ih =>
      cases s with
      | nil => simp [dropStart?] at h
      | cons d s =>
        by_cases hcd : c = d
        · subst hcd
          simp only [dropStart?, if_true] at h
          rw [List.cons_append, ← ih h]
        · simp [dropStart?, hcd] at h
  · rintro rfl
    exact dropStart?_append start rest

/-- The text before and after the first occurrence of a marker. -/
def cutAt (marker : List Char) : List Char → Option (List Char × List Char)
  | [] => (dropStart? marker []).map ([], ·)
  | c :: rest => match dropStart? marker (c :: rest) with
    | some after => some ([], after)
    | none => (cutAt marker rest).map fun (before, after) => (c :: before, after)

/-- The text does not hold the marker anywhere. -/
def lacks (marker s : List Char) : Bool :=
  (cutAt marker s).isNone

/-- The lines of a text. A line ends at a line feed, which is dropped together with one carriage
return before it; the end of the text ends the last line unless it is empty. -/
def lines : List Char → List (List Char)
  | [] => []
  | '\n' :: rest => [] :: lines rest
  | '\r' :: '\n' :: rest => [] :: lines rest
  | c :: rest => match lines rest with
    | [] => [[c]]
    | line :: others => (c :: line) :: others

/-- A text with every occurrence of one character replaced by another. -/
def replaceChar (old new : Char) (s : String) : String :=
  String.ofList (s.toList.map fun c => if c = old then new else c)

/-- The texts one after the other, with a separator between neighbours. -/
def joinWith (separator : String) : List String → String
  | [] => ""
  | [part] => part
  | part :: parts => part ++ separator ++ joinWith separator parts

/-- The texts one after the other. -/
def concat : List String → String
  | [] => ""
  | part :: parts => part ++ concat parts

end JniBindings.Text
