import JniBindings.Config
import JniBindings.Generation
/-!
# Arguments

`Request.ofArguments` reads the arguments of the command line: a sub-command that says what to
generate, and then options. An option with a value takes it after an equals sign or as the next
argument, `-o` also without anything between them. Only inputs may be given more than once, and the
first mistake or request for help decides.
-/

namespace JniBindings

namespace CommandLine

/-- The options without a value. -/
inductive Switch
  | noThreadSafe
  | useJniHelper
  | headerOnly
  | allMembers
  | noFieldAccessors
  | noAllMethods
  | noGlueSource
deriving DecidableEq, Repr

/-- The options with a value. -/
inductive Setting
  | input
  | out
  | namespacePath
  | errorLogger
  | fusion
deriving DecidableEq, Repr

/-- All options without a value. -/
def Switch.all : List Switch :=
  [noThreadSafe, useJniHelper, headerOnly, allMembers, noFieldAccessors, noAllMethods,
    noGlueSource]

/-- The name of an option without a value. -/
def Switch.name : Switch → String
  | noThreadSafe => "no-thread-safe"
  | useJniHelper => "use-jni-helper"
  | headerOnly => "header-only"
  | allMembers => "all-members"
  | noFieldAccessors => "no-field-accessors"
  | noAllMethods => "no-all-methods"
  | noGlueSource => "no-glue-source"

/-- All options with a value. -/
def Setting.all : List Setting := [input, out, namespacePath, errorLogger, fusion]

/-- The name of an option with a value. -/
def Setting.name : Setting → String
  | input => "input"
  | out => "out"
  | namespacePath => "namespace"
  | errorLogger => "error-logger"
  | fusion => "fusion"

/-- The letter of an option with a short form. -/
def Setting.letter? : Setting → Option Char
  | out => some 'o'
  | _ => none

/-- The option names a file or folder, so that its value cannot be empty. -/
def Setting.isPath (s : Setting) : Bool := s = input || s = out

/-- An option as it was given. -/
inductive Given
  | switch (s : Switch)
  | setting (s : Setting) (value : String)
deriving DecidableEq, Repr

/-- What the arguments ask for instead of a generation. -/
inductive Refusal
  | help
  | version
  | misuse
deriving DecidableEq, Repr

/-- What one argument is. -/
inductive Argument
  | help
  | terminator
  | switch (s : Switch)
  | setting (s : Setting) (value : Option String)
  | mistake
deriving DecidableEq, Repr

/-! ### Single arguments -/

/-- A name and the value after an equals sign. -/
def splitValue (s : List Char) : String × Option String :=
  match s.span (· ≠ '=') with
  | (name, _ :: value) => (String.ofList name, some (String.ofList value))
  | (name, []) => (String.ofList name, none)

/-- An argument after its two dashes. -/
def longArgument (s : List Char) : Argument :=
  let (name, value) := splitValue s
  match Setting.all.find? (·.name = name) with
  | some setting => .setting setting value
  | none =>
    if value.isSome then .mistake
    else if name = "help" then .help
    else match Switch.all.find? (·.name = name) with
      | some s => .switch s
      | none => .mistake

/-- The value that stands right after a letter. -/
def attachedValue : List Char → Option String
  | [] => none
  | '=' :: value => some (String.ofList value)
  | value => some (String.ofList value)

/-- An argument after its single dash. -/
def shortArgument : List Char → Argument
  | [] => .mistake
  | c :: rest => match Setting.all.find? (·.letter? = some c) with
    | some setting => .setting setting (attachedValue rest)
    | none => if c = 'h' then .help else .mistake

/-- What an argument is. -/
def Argument.ofText (text : String) : Argument :=
  match text.toList with
  | ['-', '-'] => .terminator
  | '-' :: '-' :: rest => longArgument rest
  | '-' :: rest => shortArgument rest
  | _ => .mistake

/-- An argument that cannot be the value of the option before it. -/
def beginsOption (text : String) : Bool :=
  match text.toList with
  | '-' :: _ :: _ => true
  | _ => false

/-! ### All arguments -/

/-- Options with one more of them, if it may be given. -/
def addGiven (given : List Given) (g : Given) : Except Refusal (List Given) :=
  match g with
  | .switch _ => if g ∈ given then .error .misuse else .ok (given ++ [g])
  | .setting s value =>
    let repeated := given.any fun
      | .setting other _ => other = s
      | .switch _ => false
    if (repeated && s ≠ .input) || (s.isPath && value.isEmpty) then .error .misuse
    else .ok (given ++ [g])

/-- The option that an argument gives by itself. -/
def Argument.complete : Argument → Except Refusal Given
  | help => .error .help
  | switch s => .ok (.switch s)
  | setting s (some value) => .ok (.setting s value)
  | _ => .error .misuse

/-- The option that an argument gives together with the next one. -/
def withValue (s : Setting) (value : String) : Except Refusal Given :=
  if beginsOption value then .error .misuse else .ok (.setting s value)

/-- Reads options, after others. -/
def readOptions (given : List Given) : List String → Except Refusal (List Given)
  | [] => .ok given
  | [text] => match Argument.ofText text with
    | .terminator => .ok given
    | argument => argument.complete.bind (addGiven given)
  | text :: next :: rest => match Argument.ofText text with
    | .setting s none => match (withValue s next).bind (addGiven given) with
      | .ok given => readOptions given rest
      | .error refusal => .error refusal
    | argument => match argument.complete.bind (addGiven given) with
      | .ok given => readOptions given (next :: rest)
      | .error refusal => .error refusal

/-- A generation that the arguments ask for. -/
structure Request where
  kinds : List OutputKind
  inputs : List Path
  out : Path
  config : Config
deriving DecidableEq, Repr

/-- The options change the configuration. -/
def Given.configure (c : Config) : Given → Config
  | switch .noThreadSafe => { c with threadSafe := false }
  | switch .useJniHelper => { c with useJniHelper := true }
  | switch .headerOnly => { c with headerOnlyProxy := true }
  | switch .allMembers => { c with onlyPublicMembers := false }
  | switch .noFieldAccessors => { c with allFieldAccessors := false }
  | switch .noAllMethods => { c with allMethods := false }
  | switch .noGlueSource => { c with glueSource := false }
  | setting .namespacePath value => c.withNamespace value
  | setting .errorLogger value => c.withErrorLogger value
  | setting .fusion value => c.withFusionFile value
  | setting .input _ => c
  | setting .out _ => c

/-- The values given for an option. -/
def valuesOf (s : Setting) (given : List Given) : List String :=
  given.filterMap fun
    | .setting other value => if other = s then some value else none
    | .switch _ => none

/-- A generation with given options. Inputs and an output folder are needed. -/
def Request.ofOptions (kinds : List OutputKind) (given : List Given) : Except Refusal Request :=
  match valuesOf .input given, valuesOf .out given with
  | input :: inputs, out :: _ =>
    .ok { kinds
          inputs := (input :: inputs).map Path.mk
          out := ⟨out⟩
          config := given.foldl Given.configure {} }
  | _, _ => .error .misuse

/-- What a sub-command generates. -/
def kindsOf? (subcommand : String) : Option (List OutputKind) :=
  match subcommand with
  | "glue" => some [.glue]
  | "proxy" => some [.proxy]
  | "both" => some [.glue, .proxy]
  | _ => none

/-- What the arguments after `help` ask for. -/
def helpOn : List String → Refusal
  | [] => .help
  | [topic] => if topic = "help" || (kindsOf? topic).isSome then .help else .misuse
  | _ => .misuse

/-- What an argument asks for in the place of a sub-command. -/
def refuse (text : String) : Refusal :=
  if text = "--help" then .help
  else if text = "--version" then .version
  else match text.toList with
    | '-' :: 'h' :: _ => .help
    | '-' :: 'V' :: _ => .version
    | _ => .misuse

/-- The generation that the arguments ask for. -/
def Request.ofArguments : List String → Except Refusal Request
  | [] => .error .misuse
  | subcommand :: rest => match kindsOf? subcommand with
    | some kinds => do Request.ofOptions kinds (← readOptions [] rest)
    | none => .error (if subcommand = "help" then helpOn rest else refuse subcommand)

end CommandLine

end JniBindings
