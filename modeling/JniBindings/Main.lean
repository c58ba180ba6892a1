import JniBindings.CommandLine.Run
/-!
# The program

`main` runs the command line on the files of the machine.
-/

namespace JniBindings.CommandLine

/-- What is said on a request for help, and after a mistake. -/
def usage : String :=
  "Usage: jni-cppgen <glue|proxy|both> --input <FILE>... --out <DIR> [OPTIONS]\n"
    ++ "\nOptions:\n"
    ++ "      --input <FILE>             a .class file or a JSON class description\n"
    ++ "  -o, --out <DIR>                output directory\n"
    ++ "      --namespace <PATH>         C++ namespace of the generated code\n"
    ++ "      --error-logger <FUNCTION>  called when class initialisation fails\n"
    ++ "      --fusion <FILE>            header that initialises all proxies\n"
    ++ Text.concat (Switch.all.map fun s => "      --" ++ s.name ++ "\n")

/-- What is said on a request for the version. -/
def version : String := "jni-cppgen 0.1.0"

/-- Whether an action succeeds. -/
def succeeds (action : IO Unit) : IO Bool := do
  try
    action
    return true
  catch _ => return false

/-- The files of the machine. -/
instance : Files IO where
  isThere p := succeeds do discard (IO.FS.realPath p.text)
  read p := do
    try
      return .ok (← IO.FS.readBinFile p.text)
    catch
      | .noFileOrDirectory .. => return .error .missing
      | _ => return .error .unusable
  createFolders p := succeeds (IO.FS.createDirAll p.text)
  write p content := succeeds (IO.FS.writeBinFile p.text content)

/-- Says how a run ended. -/
def Outcome.report : Outcome → IO Unit
  | refused .help => IO.print usage
  | refused .version => IO.println version
  | refused .misuse => IO.eprint usage
  | finished _ messages => messages.forM IO.eprintln

end JniBindings.CommandLine

/-- Runs the command line. -/
def main (arguments : List String) : IO UInt32 := do
  let outcome : JniBindings.CommandLine.Outcome ← JniBindings.CommandLine.run arguments
  outcome.report
  return outcome.exitCode.toUInt32
