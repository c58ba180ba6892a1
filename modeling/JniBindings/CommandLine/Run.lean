import JniBindings.CommandLine.Options
import JniBindings.ModelFile
/-!
# Running the command line

`run` reads the class models, generates what the arguments ask for, and says how that went. Nothing
is written if a class model cannot be read.
-/

namespace JniBindings.CommandLine

variable {m : Type → Type} [Monad m] [Files m]

/-- How a run ends. -/
inductive Outcome
  | refused (refusal : Refusal)
  | finished (success : Bool) (messages : List String)
deriving DecidableEq, Repr

/-- The exit code of a run. -/
def Outcome.exitCode : Outcome → Nat
  | refused .help => 0
  | refused .version => 0
  | refused .misuse => 2
  | finished success _ => if success then 0 else 1

/-- The class models in one file, or why there are none. -/
def loadInput (input : Path) : m (Except String (List ClassModel)) := do
  if ← Files.isThere input then
    match ← ClassModel.load input with
    | .ok models => return .ok models
    | .error failure =>
      return .error ("Error reading " ++ input.text ++ ": " ++ failure.message)
  else return .error ("Error: Input file not found: " ++ input.text)

/-- The class models in files, after others. The first file that cannot be read ends it. -/
def loadInputs (models : List ClassModel) : List Path → m (Except String (List ClassModel))
  | [] => return .ok models
  | input :: rest => do
    match ← loadInput input with
    | .ok more => loadInputs (models ++ more) rest
    | .error message => return .error message

/-- What a report says: a summary, and a line for each class that failed. -/
def summary (out : Path) (r : BatchReport) : List String :=
  ("Generated " ++ toString r.generated.length ++ " class(es), " ++ toString r.files.length
      ++ " file(s) in " ++ out.text)
    :: r.failures.map fun (name, failure) =>
      "Error generating " ++ name ++ ": " ++ failure.message

/-- Generates what is asked for. -/
def generate (request : Request) : m Outcome := do
  match ← loadInputs [] request.inputs with
  | .error message => return .finished false [message]
  | .ok models =>
    let report ← processBatch request.config request.kinds request.out models
    return .finished report.isSuccess (summary request.out report)

/-- Does what the arguments ask for. -/
def run (arguments : List String) : m Outcome :=
  match Request.ofArguments arguments with
  | .error refusal => return .refused refusal
  | .ok request => generate request

end JniBindings.CommandLine
