import JniBindings.ClassFile.Basic
import JniBindings.ClassFile.Bytes
import JniBindings.ClassFile.Model
import JniBindings.ClassFile.Name
import JniBindings.ClassFile.Pool
import JniBindings.ClassFile.Utf8
import JniBindings.ClassModel
import JniBindings.ClassNames
import JniBindings.CommandLine.Options
import JniBindings.CommandLine.Run
import JniBindings.Config
import JniBindings.Constant
import JniBindings.Cpp.Literal
import JniBindings.Decimal.Double
import JniBindings.Decimal.Shortest
import JniBindings.Failure
import JniBindings.FileTree.Basic
import JniBindings.Files
import JniBindings.Fusion
import JniBindings.GeneratedFile
import JniBindings.Generation
import JniBindings.Glue.Basic
import JniBindings.Glue.Printer
import JniBindings.HelperHeader
import JniBindings.Identifier
import JniBindings.JavaType.Basic
import JniBindings.JavaType.Descriptor
import JniBindings.JavaType.Native
import JniBindings.JavaType.Spelling
import JniBindings.Json.Basic
import JniBindings.Json.Reader
import JniBindings.Json.Token
import JniBindings.Main
import JniBindings.Member
import JniBindings.ModelFile
import JniBindings.Modifiers
import JniBindings.Namespace
import JniBindings.NativeParameter
import JniBindings.Overload
import JniBindings.Path
import JniBindings.Proofs.AddedMethods
import JniBindings.Proofs.ClassFile.Descriptor
import JniBindings.Proofs.ClassFile.Model
import JniBindings.Proofs.ClassFile.Reader
import JniBindings.Proofs.ClassFile.Representable
import JniBindings.Proofs.ClassModel
import JniBindings.Proofs.ClassModel.Sorted
import JniBindings.Proofs.ClassNames
import JniBindings.Proofs.ClassNames.Forms
import JniBindings.Proofs.ClassNames.Identifiers
import JniBindings.Proofs.Constant.Names
import JniBindings.Proofs.Constant.Values
import JniBindings.Proofs.Cpp.IntegerConstant
import JniBindings.Proofs.Cpp.Literal
import JniBindings.Proofs.Cpp.StringBody
import JniBindings.Proofs.Cpp.Token
import JniBindings.Proofs.FileTree
import JniBindings.Proofs.FileTree.Repeat
import JniBindings.Proofs.Fusion.Line
import JniBindings.Proofs.Fusion.Merge
import JniBindings.Proofs.Fusion.ReadBack
import JniBindings.Proofs.Fusion.RoundTrip
import JniBindings.Proofs.Fusion.Unmarked
import JniBindings.Proofs.Generation.Account
import JniBindings.Proofs.Generation.Again
import JniBindings.Proofs.Generation.Batch
import JniBindings.Proofs.Generation.Descriptors
import JniBindings.Proofs.Generation.FusionHeader
import JniBindings.Proofs.Generation.Isolation
import JniBindings.Proofs.Generation.Literals
import JniBindings.Proofs.Generation.Places
import JniBindings.Proofs.Generation.Run
import JniBindings.Proofs.Glue.Binding
import JniBindings.Proofs.Initialization.Blocks
import JniBindings.Proofs.Initialization.Calls
import JniBindings.Proofs.Initialization.Code
import JniBindings.Proofs.Initialization.Contract
import JniBindings.Proofs.Initialization.Emitted
import JniBindings.Proofs.Initialization.Execution
import JniBindings.Proofs.Initialization.Lines
import JniBindings.Proofs.Initialization.ReadBack
import JniBindings.Proofs.Initialization.Routines
import JniBindings.Proofs.Initialization.Threads
import JniBindings.Proofs.JavaType.Descriptor
import JniBindings.Proofs.JavaType.Grammar
import JniBindings.Proofs.JavaType.MethodType
import JniBindings.Proofs.JavaType.Native
import JniBindings.Proofs.JavaType.RoundTrip
import JniBindings.Proofs.JavaType.Spelling
import JniBindings.Proofs.Json.Array
import JniBindings.Proofs.Member
import JniBindings.Proofs.Namespace
import JniBindings.Proofs.Outcome
import JniBindings.Proofs.Overload
import JniBindings.Proofs.Overload.Separation
import JniBindings.Proofs.Overload.Slots
import JniBindings.Proofs.ParameterNames
import JniBindings.Proofs.Path
import JniBindings.Proofs.Proxy.Calls
import JniBindings.Proofs.Proxy.FunctionNames
import JniBindings.Proofs.Proxy.Members
import JniBindings.Proofs.Proxy.NamesApart
import JniBindings.Proofs.Proxy.Slots
import JniBindings.Proofs.Refusal
import JniBindings.Proofs.Symbol.Collision
import JniBindings.Proofs.Symbol.Decode
import JniBindings.Proofs.Symbol.Suffix
import JniBindings.Proofs.Symbol.Unique
import JniBindings.Proofs.SymbolTable
import JniBindings.Proofs.SymbolTable.Many
import JniBindings.Proofs.Text.CodePoint
import JniBindings.Proofs.Text.Joined
import JniBindings.Proofs.Text.Lines
import JniBindings.Proofs.Text.Marker
import JniBindings.Proofs.Text.Segments
import JniBindings.Proofs.Word
import JniBindings.Proxy.Basic
import JniBindings.Proxy.Forwarding
import JniBindings.Proxy.Initialization
import JniBindings.Proxy.Printer
import JniBindings.Symbol
import JniBindings.SymbolTable
import JniBindings.Text.Alphanumeric
import JniBindings.Text.Blank
import JniBindings.Text.CodePoint
import JniBindings.Text.Segments
import JniBindings.Text.UpperCase
import JniBindings.Warning
