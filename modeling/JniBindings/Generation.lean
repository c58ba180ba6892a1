import JniBindings.Files
import JniBindings.Fusion
import JniBindings.Glue.Printer
import JniBindings.HelperHeader
import JniBindings.Proxy.Printer
/-!
# Generations

What is written for a class is first laid out as a list of actions, and then carried out until an
action fails. `writeClass` does this for one class, and `processBatch` for a list of them, where the
failure of one leaves the others alone.
-/

namespace JniBindings

/-- What can be generated for a class. -/
inductive OutputKind
  | glue
  | proxy
deriving DecidableEq, Repr

/-- One step of a generation. -/
inductive Action
  | createFolder (folder : Path)
  | write (path : Path) (content : String)
  | register (path : Path) (entry : FusionEntry)
  | fail (failure : Failure)
deriving DecidableEq, Repr

/-- What is generated for a class, without writing it. -/
def generate (config : Config) (c : ClassModel) : OutputKind → Except Failure GeneratedClass
  | .glue => do
    let names ← ClassNames.ofModel c
    let glue ← Glue.ofModel config names c
    pure glue.files
  | .proxy => do
    let names ← ClassNames.ofModel c
    let proxy ← Proxy.ofModel config names c
    pure proxy.files

/-! ### Laying out -/

/-- The folder of glue in the output folder. -/
def glueFolder : String := "glue"

/-- The folder of proxies in the output folder. -/
def proxyFolder : String := "proxy"

/-- Writes a file into a folder. -/
def GeneratedFile.action (folder : Path) (f : GeneratedFile) : Action :=
  .write (folder.join f.name) f.content

/-- Writes the files of a class into a folder. -/
def GeneratedClass.actions (folder : Path) (c : GeneratedClass) : List Action :=
  .createFolder folder :: c.files.map (·.action folder)

/-- Writes the glue of a class that has native methods. -/
def glueActions (config : Config) (names : ClassNames) (c : ClassModel) (out : Path) :
    List Action :=
  if (Glue.nativeMethods c).isEmpty then []
  else match Glue.ofModel config names c with
    | .ok glue => glue.files.actions (out.join glueFolder)
    | .error failure => [.fail failure]

/-- The entry of a proxy in the fusion header. -/
def Proxy.fusionEntry (p : Proxy) : FusionEntry :=
  ⟨p.config.namespacePath.path, p.names.proxy, p.headerName⟩

/-- Writes the proxy of a class, and what belongs to it. -/
def proxyActions (config : Config) (names : ClassNames) (c : ClassModel) (out : Path) :
    List Action :=
  match Proxy.ofModel config names c with
  | .error failure => [.fail failure]
  | .ok proxy =>
    let folder := out.join proxyFolder
    proxy.files.actions folder
      ++ (if config.useJniHelper then [helperHeader.action folder] else [])
      ++ config.fusionFile.toList.map fun name => .register (folder.join name) proxy.fusionEntry

/-- Writes what is generated for a class. -/
def classActions (config : Config) (kinds : List OutputKind) (out : Path) (c : ClassModel) :
    List Action :=
  match ClassNames.ofModel c with
  | .error failure => [.fail failure]
  | .ok names =>
    (if .glue ∈ kinds then glueActions config names c out else [])
      ++ if .proxy ∈ kinds then proxyActions config names c out else []

/-! ### Carrying out -/

section Run

variable {m : Type → Type} [Monad m] [Files m]

/-- Whether a step that writes was possible. -/
def orFail (possible : Bool) : Except Failure Unit :=
  if possible then .ok () else .error .io

/-- Adds a proxy to a fusion header, which is written only if that changes it. -/
def registerProxy (path : Path) (entry : FusionEntry) : m (Except Failure Unit) := do
  match ← Files.readTextOrEmpty path with
  | .error failure => return .error failure
  | .ok existing => match Fusion.merge existing entry with
    | .error failure => return .error failure
    | .ok merged =>
      if merged = existing then return .ok ()
      else return orFail (← Files.write path merged.toUTF8)

/-- Carries out an action. -/
def Action.run : Action → m (Except Failure Unit)
  | createFolder folder => return orFail (← Files.createFolders folder)
  | write path content => return orFail (← Files.write path content.toUTF8)
  | register path entry => registerProxy path entry
  | fail failure => return .error failure

/-- The paths of the files that an action may have written, after others. The fusion header does not
count twice. -/
def Action.report (written : List Path) : Action → List Path
  | write path _ => written ++ [path]
  | register path _ => if written.any path.same then written else written ++ [path]
  | _ => written

/-- Carries out actions until one fails. -/
def runActions (written : List Path) : List Action → m (Except Failure (List Path))
  | [] => return .ok written
  | action :: rest => do
    match ← action.run with
    | .ok () => runActions (action.report written) rest
    | .error failure => return .error failure

/-- Writes what is generated for a class into an output folder, and reports the files. -/
def writeClass (config : Config) (kinds : List OutputKind) (out : Path) (c : ClassModel) :
    m (Except Failure (List Path)) :=
  runActions [] (classActions config kinds out c)

/-- What became of a list of classes: the names of those that were generated, the files that were
written for them, and the names of the others, with the reasons. -/
structure BatchReport where
  generated : List String
  files : List Path
  failures : List (String × Failure)
deriving DecidableEq, Repr

namespace BatchReport

/-- Nothing has been done yet. -/
def empty : BatchReport := ⟨[], [], []⟩

/-- A report with the outcome for one more class. -/
def add (r : BatchReport) (name : String) : Except Failure (List Path) → BatchReport
  | .ok files => { r with generated := r.generated ++ [name], files := r.files ++ files }
  | .error failure => { r with failures := r.failures ++ [(name, failure)] }

/-- No class failed. -/
def isSuccess (r : BatchReport) : Bool := r.failures.isEmpty

end BatchReport

/-- Generates classes one after the other, after those of a report. -/
def processFrom (report : BatchReport) (config : Config) (kinds : List OutputKind) (out : Path) :
    List ClassModel → m BatchReport
  | [] => return report
  | c :: rest => do
    let outcome ← writeClass config kinds out c
    processFrom (report.add c.name outcome) config kinds out rest

/-- Generates classes one after the other. -/
def processBatch (config : Config) (kinds : List OutputKind) (out : Path)
    (classes : List ClassModel) : m BatchReport :=
  processFrom .empty config kinds out classes

end Run

end JniBindings
