import JniBindings.Namespace
/-!
# Options of a generation

`Config` holds the options of one run. Texts are set with `Config.withNamespace`,
`Config.withErrorLogger` and `Config.withFusionFile`, which take off the white space around them; a
blank text sets nothing.
-/

namespace JniBindings

/-- The options of a generation. -/
structure Config where
  /-- Class initialisation is guarded by a lock. -/
  threadSafe : Bool := true
  /-- Proxies pass references in the wrappers of the helper header. -/
  useJniHelper : Bool := false
  /-- Proxies are defined in their headers, and have no source files. -/
  headerOnlyProxy : Bool := false
  /-- Proxies leave out members that are not public. -/
  onlyPublicMembers : Bool := true
  /-- Fields get accessors without being annotated. -/
  allFieldAccessors : Bool := true
  /-- Methods are put into proxies without being annotated. -/
  allMethods : Bool := true
  /-- Stubs of native methods are defined in a source file. -/
  glueSource : Bool := true
  /-- The function that is called when class initialisation fails. -/
  errorLogger : Option String := none
  /-- The namespace of the generated classes. -/
  namespacePath : Namespace := ⟨[]⟩
  /-- The file that initialises all proxies. -/
  fusionFile : Option String := none
deriving DecidableEq, Repr

namespace Config

/-- A text without the white space around it, unless there is nothing else. -/
def nonBlank (text : String) : Option String :=
  let text := Text.trim text
  if text.isEmpty then none else some text

/-- The options with the namespace that a text names. -/
def withNamespace (c : Config) (path : String) : Config :=
  { c with namespacePath := .ofText path }

/-- The options with another function for errors. -/
def withErrorLogger (c : Config) (name : String) : Config :=
  { c with errorLogger := nonBlank name }

/-- The options with another file that initialises all proxies. -/
def withFusionFile (c : Config) (name : String) : Config :=
  { c with fusionFile := nonBlank name }

end Config

end JniBindings
