import JniBindings.ClassNames
import JniBindings.Config
import JniBindings.Constant
import JniBindings.NativeParameter
import JniBindings.Overload
import JniBindings.Text.UpperCase
/-!
# Proxy of a class

A proxy is a C++ class that makes instances of a Java class, calls its methods and reads and writes
its fields. `Proxy.ofModel` selects the members that it offers and collects what is written about
each: the name of its function, the slot that keeps its id, and its descriptor.
-/

namespace JniBindings

/-- A constructor in a proxy. The parameters are those of the declaration; the descriptor also
counts the enclosing instance of an inner class. -/
structure ProxyConstructor where
  functionName : String
  slot : String
  descriptor : String
  signature : String
  parameters : List NativeParameter
deriving DecidableEq, Repr

/-- A method in a proxy. -/
structure ProxyMethod where
  functionName : String
  slot : String
  name : String
  descriptor : String
  signature : String
  isStatic : Bool
  result : JavaType
  native : NativeType
  parameters : List NativeParameter
deriving DecidableEq, Repr

/-- A field in a proxy, with the names of its getter and setter if it has them. -/
structure ProxyField where
  name : String
  slot : String
  descriptor : String
  signature : String
  isStatic : Bool
  type : JavaType
  native : NativeType
  getter : Option String
  setter : Option String
  setterParameter : String
deriving DecidableEq, Repr

/-- The proxy of a class. -/
structure Proxy where
  names : ClassNames
  config : Config
  headerName : String
  sourceName : String
  constants : List Constant
  constructors : List ProxyConstructor
  methods : List ProxyMethod
  fields : List ProxyField
  warnings : List Warning
deriving DecidableEq, Repr

/-! ### Selecting members -/

/-- A member with given modifiers is offered unless it is annotated otherwise. -/
def Config.shows (config : Config) (modifiers : Modifiers) : Bool :=
  !config.onlyPublicMembers || modifiers.contains .isPublic

/-- The constructors that a proxy offers; an abstract class has no instances of its own. -/
def Config.proxiedConstructors (config : Config) (c : ClassModel) : List Method :=
  if c.modifiers.contains .isAbstract then []
  else c.constructors.filter fun m => m.proxyRequest?.getD (config.shows m.modifiers)

/-- The methods that a proxy offers. -/
def Config.proxiedMethods (config : Config) (c : ClassModel) : List Method :=
  c.methods.filter fun m =>
    m.proxyRequest?.getD (config.allMethods && config.shows m.modifiers)

/-- A name with its first character in upper case. -/
def capitalize (name : String) : String :=
  match name.toList with
  | [] => ""
  | c :: rest => String.ofList (Text.upperCase c ++ rest)

/-- The class has a method of a given name. -/
def ClassModel.hasMethod (c : ClassModel) (name : String) : Bool :=
  c.methods.any (·.name = name)

/-- The class has a method that reads the field. -/
def ClassModel.hasGetter (c : ClassModel) (f : Field) : Bool :=
  c.hasMethod ("get" ++ capitalize f.name) || c.hasMethod ("get" ++ f.name)
    || (f.type = .primitive .boolean && c.hasMethod ("is" ++ capitalize f.name))

/-- The class has a method that writes the field. -/
def ClassModel.hasSetter (c : ClassModel) (f : Field) : Bool :=
  c.hasMethod ("set" ++ capitalize f.name) || c.hasMethod ("set" ++ f.name)

/-- A field that is not annotated gets the accessors that its class does not have. -/
def Config.addsAccessors (config : Config) (f : Field) : Bool :=
  f.accessorRequest?.isNone && config.allFieldAccessors && config.shows f.modifiers

/-- Whether a field gets a getter and a setter. A final field has no setter. -/
def Config.accessors (config : Config) (c : ClassModel) (f : Field) : Bool × Bool :=
  let (getter, setter) := match f.accessorRequest? with
    | some requested => requested
    | none =>
      if config.addsAccessors f then (!c.hasGetter f, !c.hasSetter f) else (false, false)
  (getter, setter && !f.isFinal)

/-- The warnings about accessors that the class already has. -/
def Config.accessorWarnings (config : Config) (c : ClassModel) (f : Field) : List Warning :=
  if config.addsAccessors f then
    (if c.hasGetter f then [.getterExists f.declaringClass f.name] else [])
      ++ (if c.hasSetter f then [.setterExists f.declaringClass f.name] else [])
  else []

/-- The fields that are not constants. -/
def ClassModel.variables (c : ClassModel) : List Field :=
  c.fields.filter (!·.isConstant)

/-- The fields that a proxy offers: those with an accessor. -/
def Config.proxiedFields (config : Config) (c : ClassModel) : List Field :=
  c.variables.filter fun f =>
    let (getter, setter) := config.accessors c f
    getter || setter

/-! ### Collecting -/

/-- A constructor that has been resolved. -/
def ProxyConstructor.ofResolved (names : ClassNames) (r : Resolved Method) :
    Except Failure ProxyConstructor := do
  let parameters ← NativeParameter.ofMethod r.member
  let descriptor ← r.member.descriptor names.enclosingInstance
  pure { functionName := r.functionName
         slot := r.methodSlot
         descriptor
         signature := r.member.signature parameters names.simple
         parameters }

/-- A method that has been resolved. -/
def ProxyMethod.ofResolved (names : ClassNames) (r : Resolved Method) :
    Except Failure ProxyMethod := do
  let parameters ← NativeParameter.ofMethod r.member
  let native ← r.member.nativeResult
  let descriptor ← r.member.descriptor none
  pure { functionName := r.functionName
         slot := r.methodSlot
         name := r.member.name
         descriptor
         signature := r.member.signature parameters names.simple
         isStatic := r.member.isStatic
         result := r.member.result
         native, parameters }

/-- A field that has been resolved, with the accessors that it gets. -/
def ProxyField.ofResolved (r : Resolved Field) (accessors : Bool × Bool) :
    Except Failure ProxyField := do
  let f := r.member
  let declaration := f.declaringClass ++ "." ++ f.name
  let native ← blame declaration f.type.native
  let descriptor ← blame declaration f.type.descriptor
  let (getter, setter) := accessors
  pure { name := f.name
         slot := r.fieldSlot
         descriptor
         signature := f.signature
         isStatic := f.isStatic
         type := f.type
         native
         getter := if getter then some ("get" ++ identifier f.name) else none
         setter := if setter then some ("set" ++ identifier f.name) else none
         setterParameter := NativeParameter.nameAt f.name 0 }

/-- The names of a field's accessors. -/
def ProxyField.accessorNames (f : ProxyField) : List String :=
  f.getter.toList ++ f.setter.toList

/-- The proxy of a class. -/
def Proxy.ofModel (config : Config) (names : ClassNames) (c : ClassModel) :
    Except Failure Proxy := do
  let resolved ← resolveMethods names.enclosingInstance (config.proxiedConstructors c)
  let constructors ← resolved.mapM (ProxyConstructor.ofResolved names)
  let resolved ← resolveMethods names.enclosingInstance (config.proxiedMethods c)
  let methods ← resolved.mapM (ProxyMethod.ofResolved names)
  let fields ← (resolveFields (config.proxiedFields c)).mapM fun r =>
    ProxyField.ofResolved r (config.accessors c r.member)
  let taken := constructors.map ProxyConstructor.functionName
    ++ methods.map ProxyMethod.functionName ++ fields.flatMap ProxyField.accessorNames
  let fileStart := config.namespacePath.fileStart ++ names.proxy
  pure { names, config
         headerName := fileStart ++ ".h"
         sourceName := fileStart ++ ".cpp"
         constants := constantsOf c.fields taken
         constructors, methods, fields
         warnings := c.variables.flatMap (config.accessorWarnings c) ++ constantWarnings c.fields }

/-- The style in which the proxy passes references. -/
def Config.style (config : Config) : Style :=
  if config.useJniHelper then .helper else .raw

end JniBindings
