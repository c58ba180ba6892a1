import JniBindings.Proxy.Basic
/-!
# Initialisation of a proxy

A proxy looks up its class and the ids of its members once and keeps them in a static state, until
it is released. `Proxy.initProgram`, `Proxy.rollbackProgram` and `Proxy.releaseProgram` are what its
two functions `initClazz` and `releaseClazz` do, statement by statement; the printer writes these
programs and nothing else.
-/

namespace JniBindings

/-- The kinds of ids that are kept in slots. -/
inductive IdKind
  | method
  | field
deriving DecidableEq, Repr

/-- The lookup of an id: whether it is that of a static member, and the literals that name the
member and its descriptor. -/
structure Lookup where
  slot : String
  kind : IdKind
  isStatic : Bool
  nameLiteral : String
  descriptorLiteral : String
deriving DecidableEq, Repr

/-- The statements of initialisation and release. A `check` rolls back and gives up if what it
names is null. -/
inductive Statement
  | findClass
  | checkFound
  | holdClass
  | dropFound
  | checkClass
  | lookUp (id : Lookup)
  | checkSlot (slot : String)
  | setInitialized (value : Bool)
  | dropClass
  | clearClass
  | clearSlot (slot : String)
  | dropClassIfHeld
  | skip
deriving DecidableEq, Repr

/-- A program that runs only if the state is initialised, or only if it is not. With a lock the
state is looked at once more after the lock has been taken. -/
structure Guarded where
  whenInitialized : Bool
  locked : Bool
  body : List Statement
deriving DecidableEq, Repr

namespace Proxy

/-- The lookup of a constructor's id. -/
def constructorLookup (m : ProxyConstructor) : Lookup :=
  ⟨m.slot, .method, false, constructorName, m.descriptor⟩

/-- The lookup of a method's id. -/
def methodLookup (m : ProxyMethod) : Lookup :=
  ⟨m.slot, .method, m.isStatic, Cpp.stringBody m.name, m.descriptor⟩

/-- The lookup of a field's id. -/
def fieldLookup (f : ProxyField) : Lookup :=
  ⟨f.slot, .field, f.isStatic, Cpp.stringBody f.name, f.descriptor⟩

/-- All lookups: those of constructors, of methods and of fields. -/
def lookups (p : Proxy) : List Lookup :=
  p.constructors.map constructorLookup ++ p.methods.map methodLookup ++ p.fields.map fieldLookup

/-- The slots in the order of their lookups. -/
def slots (p : Proxy) : List String := p.lookups.map Lookup.slot

/-- The lookup of one id. -/
def lookupStatements (id : Lookup) : List Statement :=
  [.lookUp id, .checkSlot id.slot, .skip]

/-- What `initClazz` does while the state is not initialised. -/
def initProgram (p : Proxy) : Guarded :=
  { whenInitialized := false
    locked := p.config.threadSafe
    body := [.findClass, .checkFound, .holdClass, .dropFound, .checkClass, .skip]
      ++ p.lookups.flatMap lookupStatements ++ [.setInitialized true] }

/-- What a failed check does before `initClazz` gives up. -/
def rollbackProgram (p : Proxy) : List Statement :=
  .dropClassIfHeld :: p.slots.map .clearSlot

/-- What `releaseClazz` does while the state is initialised. -/
def releaseProgram (p : Proxy) : Guarded :=
  { whenInitialized := true
    locked := p.config.threadSafe
    body := [.dropClass, .clearClass] ++ p.slots.map .clearSlot ++ [.setInitialized false] }

end Proxy

end JniBindings
