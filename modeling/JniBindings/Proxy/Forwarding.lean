import JniBindings.Proxy.Basic
/-!
# Functions of a proxy

The functions of a proxy that forward to Java each consist of one call through the native interface.
`Proxy.forwardings` lists them as data: name, parameters and call. `Proxy.fixedFunctions` lists the
functions that every proxy has.
-/

namespace JniBindings

/-- The type of a parameter of a function of a proxy. -/
inductive ParameterType
  | environment
  | passed (type : PassedType)
deriving DecidableEq, Repr

/-- The type as it is written. -/
def ParameterType.text : ParameterType → String
  | environment => "JNIEnv*"
  | passed type => type.text

/-- A parameter of a function of a proxy. -/
structure FunctionParameter where
  type : ParameterType
  name : String
deriving DecidableEq, Repr

/-- What an interface call is made on. -/
inductive Receiver
  | heldClass
  | wrappedInstance
  | instanceParameter
deriving DecidableEq, Repr

/-- A call through the native interface, on a receiver, with the id in a slot. -/
structure InterfaceCall where
  function : String
  receiver : Receiver
  slot : String
  arguments : List NativeParameter
deriving DecidableEq, Repr

/-- What a function does with the value of its call: it has none, or it is returned after a cast
and inside wrappers, the outermost first. -/
inductive Returned
  | nothing
  | value (cast : Option NativeType) (wrappers : List String)
deriving DecidableEq, Repr

/-- A function that forwards to Java. -/
structure Forwarding where
  signature : String
  name : String
  isStatic : Bool
  resultText : String
  parameters : List NativeParameter
  call : InterfaceCall
  returned : Returned
deriving DecidableEq, Repr

/-- The name and parameter types of a function, by which C++ tells overloaded functions apart. -/
structure FunctionKey where
  name : String
  parameters : List ParameterType
deriving DecidableEq, Repr

namespace Proxy

/-- The parameters in front of those of the Java member. In helper style the environment and the
instance are not passed. -/
def implicitParameters (style : Style) (isStatic : Bool) : List FunctionParameter :=
  match style with
  | .helper => []
  | .raw =>
    ⟨.environment, "env"⟩
      :: if isStatic then [] else [⟨.passed (.plain .object), "thiz"⟩]

/-- All parameters that a function declares. -/
def declaredParameters (style : Style) (f : Forwarding) : List FunctionParameter :=
  implicitParameters style f.isStatic
    ++ f.parameters.map fun p => ⟨.passed (p.passedType style), p.name⟩

/-- What calls of static and of other members are made on. -/
def receiver (style : Style) (isStatic : Bool) : Receiver :=
  if isStatic then .heldClass
  else match style with
    | .helper => .wrappedInstance
    | .raw => .instanceParameter

/-- The result of a function that returns a value of a Java type. -/
def resultText (style : Style) (type : JavaType) (native : NativeType) : String :=
  if style = .helper && !type.isPrimitive then wrapper native.name else native.name

/-- What a function does with a value of a Java type. -/
def returned (style : Style) (type : JavaType) (native : NativeType) : Returned :=
  if native = .scalar .void then .nothing
  else .value (if needsCast native.name then some native else none)
    (if style = .helper && !type.isPrimitive then [wrapper native.name] else [])

/-- The word in the names of interface functions for static members. -/
def staticWord (isStatic : Bool) : String := if isStatic then "Static" else ""

/-- The parameter for the enclosing instance of an inner class, a bare object whatever its type. -/
def enclosingParameters (names : ClassNames) : List NativeParameter :=
  if names.isInner then [⟨"enclosingClass", .declared "java.lang.Object", .object⟩] else []

/-- The function that makes an instance. -/
def constructorForwarding (style : Style) (names : ClassNames) (m : ProxyConstructor) :
    Forwarding :=
  let parameters := enclosingParameters names ++ m.parameters
  { signature := m.signature
    name := m.functionName
    isStatic := true
    resultText := match style with
      | .helper => names.proxy
      | .raw => NativeType.object.name
    parameters
    call := ⟨"NewObject", .heldClass, m.slot, parameters⟩
    returned := .value none (match style with
      | .helper => [names.proxy, wrapper NativeType.object.name]
      | .raw => []) }

/-- The function that calls a method. -/
def methodForwarding (style : Style) (m : ProxyMethod) : Forwarding :=
  { signature := m.signature
    name := m.functionName
    isStatic := m.isStatic
    resultText := resultText style m.result m.native
    parameters := m.parameters
    call := ⟨"Call" ++ staticWord m.isStatic ++ m.result.selector ++ "Method",
      receiver style m.isStatic, m.slot, m.parameters⟩
    returned := returned style m.result m.native }

/-- The function that reads a field. -/
def getterForwarding (style : Style) (f : ProxyField) (name : String) : Forwarding :=
  { signature := f.signature
    name
    isStatic := f.isStatic
    resultText := resultText style f.type f.native
    parameters := []
    call := ⟨"Get" ++ staticWord f.isStatic ++ f.type.selector ++ "Field",
      receiver style f.isStatic, f.slot, []⟩
    returned := returned style f.type f.native }

/-- The function that writes a field. -/
def setterForwarding (style : Style) (f : ProxyField) (name : String) : Forwarding :=
  let value : NativeParameter := ⟨f.setterParameter, f.type, f.native⟩
  { signature := f.signature
    name
    isStatic := f.isStatic
    resultText := (NativeType.scalar .void).name
    parameters := [value]
    call := ⟨"Set" ++ staticWord f.isStatic ++ f.type.selector ++ "Field",
      receiver style f.isStatic, f.slot, [value]⟩
    returned := .nothing }

/-- The functions that read and write a field. -/
def fieldForwardings (style : Style) (f : ProxyField) : List Forwarding :=
  f.getter.toList.map (getterForwarding style f) ++ f.setter.toList.map (setterForwarding style f)

/-- The functions that forward to Java. -/
def forwardings (p : Proxy) : List Forwarding :=
  p.constructors.map (constructorForwarding p.config.style p.names)
    ++ p.methods.map (methodForwarding p.config.style)
    ++ p.fields.flatMap (fieldForwardings p.config.style)

/-- The name and parameter types of a function that forwards to Java. -/
def forwardingKey (style : Style) (f : Forwarding) : FunctionKey :=
  ⟨f.name, (declaredParameters style f).map FunctionParameter.type⟩

/-- The functions that every proxy has. -/
def fixedFunctions (style : Style) : List FunctionKey :=
  [⟨"initClazz", [.environment]⟩, ⟨"releaseClazz", [.environment]⟩,
    ⟨"assertInited", [.environment]⟩, ⟨"getClassInitState", []⟩]
    ++ match style with
      | .helper => [⟨"getThis", []⟩]
      | .raw => []

/-- All functions that the proxy declares. -/
def functionKeys (p : Proxy) : List FunctionKey :=
  p.forwardings.map (forwardingKey p.config.style) ++ fixedFunctions p.config.style

end Proxy

end JniBindings
