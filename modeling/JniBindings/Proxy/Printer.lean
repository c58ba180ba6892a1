import JniBindings.HelperHeader
import JniBindings.Proxy.Forwarding
import JniBindings.Proxy.Initialization
/-!
# Files of a proxy

`Proxy.header` declares the proxy class and defines the functions that forward to Java.
`Proxy.definitions` defines initialisation and release, in the source file or, if there is none, at
the end of the header.
-/

namespace JniBindings

/-! ### Initialisation -/

/-- The macro that checks lookups. -/
def checkMacro : String := "JNICPP_CHECK_NULL"

/-- The check of an expression. -/
def checkText (expression : String) : String := checkMacro ++ "(" ++ expression ++ ");"

/-- The type of the ids of a kind. -/
def IdKind.typeName : IdKind → String
  | method => "jmethodID"
  | field => "jfieldID"

/-- The word for a kind of ids in the names of interface functions. -/
def IdKind.word : IdKind → String
  | method => "Method"
  | field => "Field"

/-- The lookup of an id. -/
def Lookup.text (id : Lookup) : String :=
  "state." ++ id.slot ++ " = env->Get" ++ Proxy.staticWord id.isStatic ++ id.kind.word
    ++ "ID(state.sClazz, " ++ Cpp.quoted id.nameLiteral ++ ", "
    ++ Cpp.quoted id.descriptorLiteral ++ ");"

/-- The lines of a statement. -/
def Statement.lines : Statement → List String
  | findClass =>
    ["jclass clazz = env->FindClass(reinterpret_cast<const char*>(FULL_CLASS_NAME));"]
  | checkFound => [checkText "clazz"]
  | holdClass => ["state.sClazz = reinterpret_cast<jclass>(env->NewGlobalRef(clazz));"]
  | dropFound => ["env->DeleteLocalRef(clazz);"]
  | checkClass => [checkText "state.sClazz"]
  | lookUp id => [id.text]
  | checkSlot slot => [checkText ("state." ++ slot)]
  | setInitialized value => ["state.sInited = " ++ (if value then "true" else "false") ++ ";"]
  | dropClass => ["env->DeleteGlobalRef(state.sClazz);"]
  | clearClass => ["state.sClazz = nullptr;"]
  | clearSlot slot => ["state." ++ slot ++ " = nullptr;"]
  | dropClassIfHeld =>
    ["if (state.sClazz != nullptr) \x7b", "    env->DeleteGlobalRef(state.sClazz);",
      "    state.sClazz = nullptr;", "\x7d"]
  | skip => [""]

/-- A line with an indent, unless it is empty. -/
def indented (indent line : String) : String :=
  if line.isEmpty then "\n" else indent ++ line ++ "\n"

/-- Statements with an indent. -/
def statementText (indent : String) (statements : List Statement) : String :=
  Text.concat ((statements.flatMap Statement.lines).map (indented indent))

/-- A guarded program. -/
def Guarded.text (g : Guarded) : String :=
  let condition := "if (" ++ (if g.whenInitialized then "" else "!") ++ "state.sInited) \x7b\n"
  "    " ++ condition
    ++ (if g.locked then
        "        std::lock_guard<std::mutex> lg(state.sInitLock);\n"
          ++ "        " ++ condition
          ++ statementText "            " g.body
          ++ "        \x7d\n"
      else statementText "        " g.body)
    ++ "    \x7d\n"

/-- A text filled up with spaces to a number of characters. -/
def padTo (width : Nat) (s : String) : String :=
  s ++ String.ofList (List.replicate (width - s.length) ' ')

/-- Lines joined by backslashes, which stand below each other. The longest line is measured in
bytes, the others in characters. -/
def continuedLines (lines : List String) : String :=
  let width := (lines.map String.utf8ByteSize).foldl max 0 + 1
  Text.joinWith "\\\n" (lines.dropLast.map (padTo width) ++ lines.getLast?.toList) ++ "\n"

namespace Proxy

/-- What reports a failed check. -/
def failureReport (p : Proxy) : String :=
  match p.config.errorLogger with
  | some logger => logger ++ "(env, \"can't init " ++ p.names.proxy ++ "::\" #val);"
  | none => "env->ExceptionDescribe();"

/-- The definition of the macro that checks lookups. -/
def checkDefinition (p : Proxy) : String :=
  continuedLines [
    "#define " ++ checkMacro ++ "(val)",
    "    do \x7b",
    "        if ((val) == nullptr) \x7b",
    "            " ++ p.failureReport,
    "            rollback();",
    "            return false;",
    "        \x7d",
    "    \x7d while (false)"]

/-- The definitions of initialisation and release; `qualifier` stands in front of their types. -/
def definitions (p : Proxy) (qualifier : String) : String :=
  "/*static*/ " ++ qualifier ++ "bool " ++ p.names.proxy ++ "::initClazz(JNIEnv* env) \x7b\n"
    ++ p.checkDefinition
    ++ "\n    auto& state = getClassInitState();\n"
    ++ "    auto rollback = [env, &state]() \x7b\n"
    ++ statementText "        " p.rollbackProgram
    ++ "    \x7d;\n\n"
    ++ p.initProgram.text
    ++ "#undef " ++ checkMacro ++ "\n"
    ++ "    return true;\n\x7d\n\n"
    ++ "/*static*/ " ++ qualifier ++ "void " ++ p.names.proxy
    ++ "::releaseClazz(JNIEnv* env) \x7b\n"
    ++ "    auto& state = getClassInitState();\n"
    ++ p.releaseProgram.text
    ++ "\x7d\n"

/-- The state that a proxy keeps. -/
def stateText (p : Proxy) : String :=
  "    struct ClassInitState \x7b\n"
    ++ (if p.config.threadSafe then
        "        std::atomic_bool sInited \x7b\x7d;\n        std::mutex sInitLock \x7b\x7d;\n"
      else "        bool sInited = false;\n")
    ++ "        jclass sClazz = nullptr;\n"
    ++ Text.concat (p.lookups.map fun id =>
      "        " ++ id.kind.typeName ++ " " ++ id.slot ++ " = nullptr;\n")
    ++ "    \x7d; // endof struct ClassInitState\n\n"
    ++ "    static inline ClassInitState& getClassInitState() \x7b\n"
    ++ "        static ClassInitState sState;\n"
    ++ "        return sState;\n"
    ++ "    \x7d\n"

/-! ### Functions -/

end Proxy

/-- A parameter as it is declared. -/
def FunctionParameter.text (p : FunctionParameter) : String := p.type.text ++ " " ++ p.name

/-- What a call is made on, as an expression. -/
def Receiver.text : Receiver → String
  | heldClass => "getClassInitState().sClazz"
  | wrappedInstance => "getThis()"
  | instanceParameter => "thiz"

/-- A call through the native interface. -/
def InterfaceCall.text (c : InterfaceCall) (style : Style) : String :=
  "env->" ++ c.function ++ "(" ++ c.receiver.text ++ ", getClassInitState()." ++ c.slot
    ++ NativeParameter.arguments c.arguments style ++ ")"

/-- The statement that a function ends with. -/
def Returned.text (r : Returned) (call : String) : String :=
  match r with
  | nothing => "        " ++ call ++ ";\n"
  | value cast wrappers =>
    let value := match cast with
      | some target => "reinterpret_cast<" ++ target.name ++ ">(" ++ call ++ ")"
      | none => call
    "        return " ++ wrappers.foldr (fun w inner => w ++ "(" ++ inner ++ ")") value ++ ";\n"

/-- The first line of a function that forwards to Java. -/
def Forwarding.head (f : Forwarding) (style : Style) : String :=
  "    " ++ (if f.isStatic || style = .raw then "static " else "")
    ++ f.resultText ++ " " ++ f.name ++ "("
    ++ Text.joinWith ", " ((Proxy.declaredParameters style f).map FunctionParameter.text) ++ ")"
    ++ (if style = .helper && !f.isStatic then " const" else "") ++ " \x7b\n"

/-- The lines that make sure that the proxy is initialised. -/
def Style.initialization : Style → String
  | helper => "        ::jnicpp::Env env;\n        assertInited(env.get());\n"
  | raw => "        assertInited(env);\n"

/-- A function that forwards to Java. -/
def Forwarding.text (f : Forwarding) (style : Style) : String :=
  "    // " ++ f.signature ++ "\n"
    ++ f.head style
    ++ style.initialization
    ++ f.returned.text (f.call.text style)
    ++ "    \x7d\n\n"

namespace Proxy

/-- The members of a proxy that holds on to an instance. -/
def holderText (p : Proxy) : String :=
  let constructor (kind name : String) : String :=
    "    explicit " ++ p.names.proxy ++ "(::jnicpp::" ++ kind ++ "<jobject> " ++ name ++ ") : _"
      ++ name ++ "(std::move(" ++ name ++ ")) \x7b\x7d\n\n"
  constructor "LocalRef" "local"
    ++ constructor "GlobalRef" "global"
    ++ "    jobject getThis() const \x7b\n"
    ++ "        return _global.get() != nullptr ? _global.get() : _local.get();\n"
    ++ "    \x7d\n\n"

/-- The declaration of the function that reports errors, unless it has a namespace of its own. -/
def loggerDeclaration (p : Proxy) : String :=
  match p.config.errorLogger with
  | some logger =>
    if Text.lacks "::".toList logger.toList then
      "// error logger declared by the embedding project\nvoid " ++ logger
        ++ "(JNIEnv* env, const char* error);\n\n"
    else ""
  | none => ""

/-- The functions of initialisation, as the class declares them. -/
def initializationMembers : String :=
  "    static bool initClazz(JNIEnv* env);\n\n"
    ++ "    static void releaseClazz(JNIEnv* env);\n\n"
    ++ "    static void assertInited(JNIEnv* env) \x7b\n"
    ++ "        auto initClazzSuccess = initClazz(env);\n"
    ++ "        assert(initClazzSuccess);\n"
    ++ "        (void) initClazzSuccess;\n"
    ++ "    \x7d\n\n"

/-- The proxy class. -/
def classText (p : Proxy) : String :=
  let helper := p.config.useJniHelper
  "class " ++ p.names.proxy ++ " \x7b\n\npublic:\n"
    ++ "    " ++ fullClassName p.names.slashed
    ++ constantLines "    " p.constants
    ++ (if helper then p.holderText else "")
    ++ initializationMembers
    ++ Text.concat (p.forwardings.map (·.text p.config.style))
    ++ "private:\n"
    ++ p.stateText
    ++ (if helper then
        "\n    ::jnicpp::LocalRef<jobject> _local;\n    ::jnicpp::GlobalRef<jobject> _global;\n"
      else "")
    ++ "\x7d; // endof class " ++ p.names.proxy ++ "\n\n"

/-- The header. -/
def header (p : Proxy) : String :=
  let headerOnly := p.config.headerOnlyProxy
  notice
    ++ "/* C++ proxy for class " ++ p.names.slashed ++ " */\n#pragma once\n\n"
    ++ "#include <jni.h>\n#include <assert.h>\n"
    ++ (if p.config.threadSafe then "#include <atomic>\n#include <mutex>\n" else "")
    ++ (if p.config.useJniHelper then
        "#include <utility>\n#include " ++ Cpp.quoted helperHeader.name ++ "\n"
      else "")
    ++ "\n"
    ++ (if headerOnly then p.loggerDeclaration else "")
    ++ lineOf p.config.namespacePath.opening
    ++ p.classText
    ++ (if headerOnly then p.definitions "inline " ++ "\n" else "")
    ++ lineOf p.config.namespacePath.closing

/-- The source. -/
def source (p : Proxy) : String :=
  notice
    ++ "#include " ++ Cpp.quoted p.headerName ++ "\n\n"
    ++ p.loggerDeclaration
    ++ lineOf p.config.namespacePath.opening
    ++ "\n"
    ++ p.definitions ""
    ++ "\n"
    ++ lineOf p.config.namespacePath.closing

/-- The files. -/
def files (p : Proxy) : GeneratedClass :=
  { header := ⟨p.headerName, p.header⟩
    source := if p.config.headerOnlyProxy then none else some ⟨p.sourceName, p.source⟩ }

end Proxy

end JniBindings
