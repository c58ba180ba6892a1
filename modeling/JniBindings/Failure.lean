import JniBindings.JavaType.Basic
/-!
# Failures

Everything that can go wrong between a class model and the files generated for it, by cause.
`Failure.message` words it.
-/

namespace JniBindings

/-- Where the reading of a short text gets stuck: at its end, or in front of a character. -/
inductive Stop
  | endOfText
  | character
deriving DecidableEq, Repr

/-- The short texts that name types. -/
inductive TypeText
  | descriptor
  | methodDescriptor
  | typeName
deriving DecidableEq, Repr

/-- What is wrong with a text. -/
inductive TextFault
  | stuck (stop : Stop) (kind : TypeText) (text : String)
  | unknownModifier (keyword : String)
  | unclosedInitBlock
  | strayInitLine (line : String)
deriving DecidableEq, Repr

/-- What is wrong with a class model. -/
inductive ModelFault
  | noQualifiedName
  | noSimpleName (name : String)
  | notBinaryName (name : String)
  | unnamedClassFile
  | unnamedMethod (className : String)
deriving DecidableEq, Repr

/-- Why a step of the generation fails. -/
inductive Failure
  | invalidModel (fault : ModelFault)
  | unsupportedType (member : String) (type : JavaType)
  | malformed (fault : TextFault)
  | badClassFile
  | badJson
  | io
deriving DecidableEq, Repr

/-- What the reader did not expect. -/
def Stop.message : Stop → String
  | endOfText => "unexpected end of input"
  | character => "unexpected parse"

/-- What the text was meant to be. -/
def TypeText.message : TypeText → String
  | descriptor => "descriptor"
  | methodDescriptor => "method descriptor"
  | typeName => "type name"

/-- The wording of a fault in a text. -/
def TextFault.message : TextFault → String
  | stuck stop kind text => stop.message ++ " in " ++ kind.message ++ " `" ++ text ++ "`"
  | unknownModifier keyword => "unknown modifier `" ++ keyword ++ "`"
  | unclosedInitBlock => "`// begin-init-block` without `// end-init-block`"
  | strayInitLine line => "unexpected line in init block: `" ++ line ++ "`"

/-- The wording of a fault in a class model. -/
def ModelFault.message : ModelFault → String
  | noQualifiedName => "class model has no qualified name"
  | noSimpleName name => "class model `" ++ name ++ "` has no simple name"
  | notBinaryName name => "`" ++ name ++ "` is not a dotted binary class name"
  | unnamedClassFile => "class file without a class name"
  | unnamedMethod className => "method without a name in " ++ className

/-- The wording of a failure. The causes of the last three are not told apart. -/
def Failure.message : Failure → String
  | invalidModel fault => "Invalid class model: " ++ fault.message
  | unsupportedType member type => "Unsupported type " ++ type.spelling ++ " in `" ++ member ++ "`"
  | malformed fault => "Failed to parse: " ++ fault.message
  | badClassFile => "Failed to parse class file:"
  | badJson => "Failed to read class model:"
  | io => "IO error:"

/-- A failure blamed on a member, where it names no member yet. -/
def Failure.inMember (member : String) : Failure → Failure
  | unsupportedType "" type => unsupportedType member type
  | failure => failure

/-- A step whose failures are blamed on a member. -/
def blame {α : Type} (member : String) : Except Failure α → Except Failure α
  | .ok a => .ok a
  | .error failure => .error (failure.inMember member)

end JniBindings
