import JniBindings.Json.Token
/-!
# Reading JSON

`Json.parse?` reads a text that holds one JSON value. It moves through the tokens with the
containers that are still open on a stack, so the state after a token says exactly which tokens may
follow.
-/

namespace JniBindings.Json

/-- An array or object that is still open. What it holds so far stands in reverse, and the key of
an object is the one whose value comes next. -/
inductive Container
  | array (done : List Json)
  | object (done : List (List Piece × Json)) (key : List Piece)

/-- What may come next, inside the open containers from the innermost outward. -/
inductive Reading
  | value (opened : List Container)
  | firstElement (opened : List Container)
  | firstKey (opened : List Container)
  | nextKey (done : List (List Piece × Json)) (opened : List Container)
  | colon (done : List (List Piece × Json)) (key : List Piece) (opened : List Container)
  | after (v : Json) (opened : List Container)

/-- The token begins a value inside the open containers. -/
def beginValue? (opened : List Container) : Token → Option Reading
  | .openArray => some (.firstElement opened)
  | .openObject => some (.firstKey opened)
  | .null => some (.after null opened)
  | .boolean b => some (.after (boolean b) opened)
  | .number n => some (.after (number n) opened)
  | .string pieces => some (.after (string pieces) opened)
  | _ => none

/-- A value is followed by a comma, or by the end of the innermost container. -/
def afterValue? (v : Json) : List Container → Token → Option Reading
  | .array done :: opened, .comma => some (.value (.array (v :: done) :: opened))
  | .array done :: opened, .closeArray => some (.after (array (v :: done).reverse) opened)
  | .object done key :: opened, .comma => some (.nextKey ((key, v) :: done) opened)
  | .object done key :: opened, .closeObject =>
    some (.after (object ((key, v) :: done).reverse) opened)
  | _, _ => none

/-- Moves on by one token. -/
def Reading.step? : Reading → Token → Option Reading
  | value opened, token => beginValue? opened token
  | firstElement opened, .closeArray => some (.after (array []) opened)
  | firstElement opened, token => beginValue? (.array [] :: opened) token
  | firstKey opened, .closeObject => some (.after (object []) opened)
  | firstKey opened, .string pieces => some (.colon [] pieces opened)
  | nextKey done opened, .string pieces => some (.colon done pieces opened)
  | colon done key opened, .colon => some (.value (.object done key :: opened))
  | after v opened, token => afterValue? v opened token
  | _, _ => none

/-- The value that was read, once every container is closed. -/
def Reading.result? : Reading → Option Json
  | after v [] => some v
  | _ => none

/-- The value that a list of tokens makes up. -/
def ofTokens? (tokens : List Token) : Option Json := do
  let final ← tokens.foldlM Reading.step? (.value [])
  final.result?

/-- The value that a text holds, with nothing but white space around it. -/
def parse? (text : String) : Option Json := do
  let tokens ← tokens? text.toList
  ofTokens? tokens

end JniBindings.Json
