/-!
# Warnings

What a generation leaves out or replaces without failing.
-/

namespace JniBindings

/-- A remark on a field of a class. -/
inductive Warning
  | noConstantValue (className field : String)
  | getterExists (className field : String)
  | setterExists (className field : String)
deriving DecidableEq, Repr

/-- The wording of a warning. -/
def Warning.message : Warning → String
  | noConstantValue className field =>
    "no usable constant value for " ++ className ++ "." ++ field ++ ", emitting zero"
  | getterExists className field =>
    className ++ " already has a getter for field " ++ field ++ ", not generating one"
  | setterExists className field =>
    className ++ " already has a setter for field " ++ field ++ ", not generating one"

end JniBindings
