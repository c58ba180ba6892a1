import JniBindings.Proofs.ClassNames.Identifiers
import JniBindings.Proofs.Cpp.Token
import JniBindings.Proofs.Initialization.Blocks
import JniBindings.Proxy.Initialization
/-!
# Code of initialisation

What a proxy's files hold about initialisation is C++: the functions `initClazz` and `releaseClazz`,
a macro and a lambda that they use, and the state they work on. `Program.ofText?` reads the two
functions as lists of instructions, in which the macro and the lambda are expanded, and
`StateMember.ofText?` reads the members of the state. Both know C++ only, and nothing of what is
printed for a given proxy.
-/

namespace JniBindings

open Cpp (LineToken)

/-! ### Instructions -/

/-- What can be compared with null: the local variable `clazz`, or a member of the state. -/
inductive Operand
  | clazz
  | member (name : String)
deriving DecidableEq, Repr

/-- When a block is entered. -/
inductive Condition
  | always
  | flagIs (value : Bool)
  | isNull (operand : Operand)
  | isHeld (member : String)
deriving DecidableEq, Repr

/-- An instruction. `hold` puts a global reference to the class that has been found into a member,
`lock` takes the lock until the innermost block ends, and `skip` does nothing to the state or to
references. -/
inductive Instruction
  | skip
  | findClass
  | hold (member : String)
  | deleteFound
  | deleteHeld (member : String)
  | lookUp (id : Lookup)
  | clear (member : String)
  | setFlag (value : Bool)
  | enter (condition : Condition)
  | lock
  | close
  | give (value : Bool)
deriving DecidableEq, Repr

/-- Blocks are entered and closed. -/
def Instruction.bracket : Instruction → Bracket
  | enter _ => .opens
  | close => .closes
  | _ => .neither

/-! ### Lines -/

/-- The functions that a proxy has for its initialisation. -/
inductive Entry
  | init
  | release
deriving DecidableEq, Repr

/-- A line of the two functions: an instruction, the comparison of the macro's parameter with null,
a use of the macro, a call of the lambda, or the beginning of the lambda or of a function. -/
inductive Line
  | code (instruction : Instruction)
  | test
  | check (operand : Operand)
  | rollback
  | lambda
  | head (entry : Entry) (proxy : String)
deriving DecidableEq, Repr

namespace Line

/-- Lines that end with an opening brace begin a block. -/
def bracket : Line → Bracket
  | code instruction => instruction.bracket
  | test | lambda | head _ _ => .opens
  | check _ | rollback => .neither

/-- The id that an interface function looks up. -/
def lookupKind? : String → Option (IdKind × Bool)
  | "GetMethodID" => some (.method, false)
  | "GetStaticMethodID" => some (.method, true)
  | "GetFieldID" => some (.field, false)
  | "GetStaticFieldID" => some (.field, true)
  | _ => none

/-- A value that is assigned to a member of the state. -/
def assignment? (member : String) : List LineToken → Option Line
  | [.word "nullptr", .mark ';'] => some (code (.clear member))
  | [.word "true", .mark ';'] => if member = "sInited" then some (code (.setFlag true)) else none
  | [.word "false", .mark ';'] => if member = "sInited" then some (code (.setFlag false)) else none
  | [.word "reinterpret_cast", .mark '<', .word "jclass", .mark '>', .mark '(', .word "env",
      .mark '-', .mark '>', .word "NewGlobalRef", .mark '(', .word "clazz", .mark ')', .mark ')',
      .mark ';'] => some (code (.hold member))
  | [.word "env", .mark '-', .mark '>', .word function, .mark '(', .word "state", .mark '.',
      .word "sClazz", .mark ',', .literal name, .mark ',', .literal descriptor, .mark ')',
      .mark ';'] =>
    (lookupKind? function).map fun (kind, isStatic) =>
      code (.lookUp ⟨member, kind, isStatic, name, descriptor⟩)
  | _ => none

/-- A line about a member of the state or about the macro. -/
def named? : List LineToken → Option Line
  | .word "state" :: .mark '.' :: .word member :: .mark '=' :: value => assignment? member value
  | [.word "env", .mark '-', .mark '>', .word "DeleteGlobalRef", .mark '(', .word "state",
      .mark '.', .word member, .mark ')', .mark ';'] => some (code (.deleteHeld member))
  | [.word "if", .mark '(', .word "state", .mark '.', .word member, .mark '!', .mark '=',
      .word "nullptr", .mark ')', .mark '\x7b'] => some (code (.enter (.isHeld member)))
  | [.word "JNICPP_CHECK_NULL", .mark '(', .word "state", .mark '.', .word member, .mark ')',
      .mark ';'] => some (check (.member member))
  | [.word "JNICPP_CHECK_NULL", .mark '(', .word "clazz", .mark ')', .mark ';'] =>
    some (check .clazz)
  | [.mark '#', .word "undef", .word "JNICPP_CHECK_NULL"] => some (code .skip)
  | _ => none

/-- What follows the type of a function in its first line. -/
def signature? (entry : Entry) (function : String) : List LineToken → Option Line
  | [.word proxy, .mark ':', .mark ':', .word name, .mark '(', .word "JNIEnv", .mark '*',
      .word "env", .mark ')', .mark '\x7b'] =>
    if name = function then some (head entry proxy) else none
  | _ => none

/-- The first line of a function. -/
def head? : List LineToken → Option Line
  | .mark '/' :: .mark '*' :: .word "static" :: .mark '*' :: .mark '/' :: .word type :: rest =>
    let (type, rest) := match type, rest with
      | "inline", .word type :: rest => (type, rest)
      | _, _ => (type, rest)
    if type = "bool" then signature? .init "initClazz" rest
    else if type = "void" then signature? .release "releaseClazz" rest
    else none
  | _ => none

/-- The parts of a qualified name, and what stands behind it. -/
def qualifiedName? : List LineToken → Option (List String × List LineToken)
  | .word name :: .mark ':' :: .mark ':' :: rest =>
    (qualifiedName? rest).map fun (names, rest) => (name :: names, rest)
  | .word name :: rest => some ([name], rest)
  | _ => none

/-- The name is an identifier that the language does not use itself. -/
def isFree (name : String) : Bool := isIdentifier name && !keywords.contains name

/-- A call of a function that reports a failed check. -/
def report? (tokens : List LineToken) : Option Line :=
  match qualifiedName? tokens with
  | some (names, [.mark '(', .word "env", .mark ',', .literal _, .mark '#', .word "val", .mark ')',
      .mark ';']) => if names.all isFree then some (code .skip) else none
  | _ => none

/-- A line without a name that is chosen for a given proxy. -/
def fixed? : List LineToken → Option Line
  | [.word "auto", .mark '&', .word "state", .mark '=', .word "getClassInitState", .mark '(',
      .mark ')', .mark ';'] => some (code .skip)
  | [.word "auto", .word "rollback", .mark '=', .mark '[', .word "env", .mark ',', .mark '&',
      .word "state", .mark ']', .mark '(', .mark ')', .mark '\x7b'] => some lambda
  | [.word "jclass", .word "clazz", .mark '=', .word "env", .mark '-', .mark '>', .word "FindClass",
      .mark '(', .word "reinterpret_cast", .mark '<', .word "const", .word "char", .mark '*',
      .mark '>', .mark '(', .word "FULL_CLASS_NAME", .mark ')', .mark ')', .mark ';'] =>
    some (code .findClass)
  | [.word "env", .mark '-', .mark '>', .word "DeleteLocalRef", .mark '(', .word "clazz", .mark ')',
      .mark ';'] => some (code .deleteFound)
  | [.word "env", .mark '-', .mark '>', .word "ExceptionDescribe", .mark '(', .mark ')',
      .mark ';'] => some (code .skip)
  | [.word "rollback", .mark '(', .mark ')', .mark ';'] => some rollback
  | [.word "return", .word "true", .mark ';'] => some (code (.give true))
  | [.word "return", .word "false", .mark ';'] => some (code (.give false))
  | [.word "if", .mark '(', .word "state", .mark '.', .word "sInited", .mark ')', .mark '\x7b'] =>
    some (code (.enter (.flagIs true)))
  | [.word "if", .mark '(', .mark '!', .word "state", .mark '.', .word "sInited", .mark ')',
      .mark '\x7b'] => some (code (.enter (.flagIs false)))
  | [.word "if", .mark '(', .mark '(', .word "val", .mark ')', .mark '=', .mark '=',
      .word "nullptr", .mark ')', .mark '\x7b'] => some test
  | [.word "do", .mark '\x7b'] => some (code (.enter .always))
  | [.word "std", .mark ':', .mark ':', .word "lock_guard", .mark '<', .word "std", .mark ':',
      .mark ':', .word "mutex", .mark '>', .word "lg", .mark '(', .word "state", .mark '.',
      .word "sInitLock", .mark ')', .mark ';'] => some (code .lock)
  | [.mark '\x7d'] | [.mark '\x7d', .mark ';']
  | [.mark '\x7d', .word "while", .mark '(', .word "false", .mark ')'] => some (code .close)
  | _ => none

/-- The line with given tokens. -/
def ofTokens? (tokens : List LineToken) : Option Line :=
  (report? tokens).or <| (named? tokens).or <| (head? tokens).or <| fixed? tokens

/-! ### Expansion -/

/-- The macro's parameter stands for an operand. -/
def fill (operand : Operand) : Line → Line
  | test => code (.enter (.isNull operand))
  | line => line

/-- The macro is expanded. -/
def expandCheck (expansion : List Line) : Line → List Line
  | check operand => expansion.map (fill operand)
  | line => [line]

/-- The lambda is called. -/
def expandRollback (undo : List Line) : Line → List Line
  | rollback => undo
  | line => [line]

/-- The instruction that the line is. -/
def instruction? : Line → Option Instruction
  | code instruction => some instruction
  | _ => none

/-- What stands in the lambda, and all that stands around it. -/
def splitLambda : List Line → Option (List Line × List Line)
  | [] => none
  | lambda :: lines => splitBlock bracket 0 lines
  | line :: lines => (splitLambda lines).map fun (inside, around) => (inside, line :: around)

end Line

/-! ### Programs -/

/-- A line and those in which it goes on because of backslashes, and the lines behind them. -/
def splitContinued : List (List LineToken) → List (List LineToken) × List (List LineToken)
  | [] => ([], [])
  | line :: lines =>
    if line.getLast? = some (.mark '\\') then
      (line.dropLast :: (splitContinued lines).1, (splitContinued lines).2)
    else ([line], lines)

/-- The functions of a proxy for its initialisation. -/
structure Program where
  init : List Instruction
  release : List Instruction
deriving DecidableEq, Repr

namespace Program

/-- The function that is called. -/
def body (program : Program) : Entry → List Instruction
  | .init => program.init
  | .release => program.release

/-- The instructions of `initClazz`, given what the macro stands for. -/
def initOf? (expansion body : List Line) : Option (List Instruction) := do
  let (undo, around) ← Line.splitLambda body
  ((around.flatMap (Line.expandCheck expansion)).flatMap (Line.expandRollback undo)).mapM
    Line.instruction?

/-- Both functions, from the lines behind the macro, which stands first in `initClazz`. -/
def ofLines? (proxy : String) (expansion lines : List Line) : Option Program := do
  let (body, lines) ← splitBlock Line.bracket 0 lines
  let init ← initOf? expansion body
  match lines with
  | .head .release proxy' :: lines =>
    let (body, lines) ← splitBlock Line.bracket 0 lines
    let release ← body.mapM Line.instruction?
    if proxy' = proxy ∧ lines = [] then some ⟨init, release⟩ else none
  | _ => none

/-- The first line of the macro. -/
def checkHead : List LineToken :=
  [.mark '#', .word "define", .word "JNICPP_CHECK_NULL", .mark '(', .word "val", .mark ')']

/-- The functions that are defined in a text. -/
def ofText? (text : String) : Option Program := do
  match ← Cpp.tokenLines? text.toList with
  | [] => none
  | first :: rest =>
    match ← Line.ofTokens? first, splitContinued rest with
    | .head .init proxy, (definition :: pieces, rest) =>
      if definition = checkHead then
        let expansion ← pieces.mapM Line.ofTokens?
        let lines ← rest.mapM Line.ofTokens?
        ofLines? proxy expansion lines
      else none
    | _, _ => none

end Program

/-! ### The state -/

/-- A member of the state: the flag, the lock, or a pointer. All begin as false or null. -/
inductive StateMember
  | flag (isAtomic : Bool)
  | mutex
  | pointer (type name : String)
deriving DecidableEq, Repr

namespace StateMember

/-- The member that is declared with given tokens. -/
def ofTokens? : List LineToken → Option StateMember
  | [.word "std", .mark ':', .mark ':', .word "atomic_bool", .word "sInited", .mark '\x7b',
      .mark '\x7d', .mark ';'] => some (flag true)
  | [.word "std", .mark ':', .mark ':', .word "mutex", .word "sInitLock", .mark '\x7b',
      .mark '\x7d', .mark ';'] => some mutex
  | [.word "bool", .word "sInited", .mark '=', .word "false", .mark ';'] => some (flag false)
  | [.word type, .word name, .mark '=', .word "nullptr", .mark ';'] => some (pointer type name)
  | _ => none

/-- The first line of the structure. -/
def opening : List LineToken := [.word "struct", .word "ClassInitState", .mark '\x7b']

/-- The last line of the structure, with a comment. -/
def closing : List LineToken :=
  [.mark '\x7d', .mark ';', .mark '/', .mark '/', .word "endof", .word "struct",
    .word "ClassInitState"]

/-- The function that gives access to the one state. -/
def accessor : List (List LineToken) :=
  [[.word "static", .word "inline", .word "ClassInitState", .mark '&', .word "getClassInitState",
      .mark '(', .mark ')', .mark '\x7b'],
    [.word "static", .word "ClassInitState", .word "sState", .mark ';'],
    [.word "return", .word "sState", .mark ';'],
    [.mark '\x7d']]

/-- The members up to the end of the structure, which the function that gives access to it has to
follow. -/
def ofLines? : List (List LineToken) → Option (List StateMember)
  | [] => none
  | line :: lines =>
    if line = closing then
      if lines = accessor then some [] else none
    else do
      let member ← ofTokens? line
      let members ← ofLines? lines
      pure (member :: members)

/-- The members of the state that is declared in a text. -/
def ofText? (text : String) : Option (List StateMember) := do
  match ← Cpp.tokenLines? text.toList with
  | [] => none
  | first :: rest => if first = opening then ofLines? rest else none

/-- The name of a pointer. -/
def pointerName? : StateMember → Option String
  | pointer _ name => some name
  | _ => none

end StateMember

end JniBindings
