import JniBindings.Proofs.Initialization.Code
/-!
# Code of a proxy

The instructions of the functions that initialise and release a proxy. Every slot occurs in each of
three places: in the lookups, in what a failed check undoes, and in the release.
-/

namespace JniBindings

namespace Proxy

/-- The pointers of the state: the class and the slots. -/
def pointers (p : Proxy) : List String := "sClazz" :: p.slots

/-- What a failed check does before `initClazz` gives up. -/
def undoCode (p : Proxy) : List Instruction :=
  .enter (.isHeld "sClazz") :: .deleteHeld "sClazz" :: .clear "sClazz" :: .close
    :: p.slots.map .clear

/-- A check. -/
def checkCode (p : Proxy) (operand : Operand) : List Instruction :=
  .enter .always :: .enter (.isNull operand) :: .skip
    :: (p.undoCode ++ [.give false, .close, .close])

/-- The lookup of one id. -/
def lookupCode (p : Proxy) (id : Lookup) : List Instruction :=
  .lookUp id :: p.checkCode (.member id.slot)

/-- What `initClazz` does while the state is not initialised. -/
def initCode (p : Proxy) : List Instruction :=
  .findClass :: (p.checkCode .clazz ++ .hold "sClazz" :: .deleteFound
    :: (p.checkCode (.member "sClazz") ++ (p.lookups.flatMap p.lookupCode ++ [.setFlag true])))

/-- What `releaseClazz` does while the state is initialised. -/
def releaseCode (p : Proxy) : List Instruction :=
  .deleteHeld "sClazz" :: .clear "sClazz" :: (p.slots.map .clear ++ [.setFlag false])

/-- Code that runs only if the flag has a given value. With a lock the flag is looked at once more
after the lock has been taken. -/
def guardedCode (p : Proxy) (value : Bool) (body : List Instruction) : List Instruction :=
  .enter (.flagIs value)
    :: ((if p.config.threadSafe then .lock :: .enter (.flagIs value) :: (body ++ [.close])
      else body) ++ [.close])

/-- Both functions. -/
def program (p : Proxy) : Program where
  init := .skip :: (p.guardedCode false p.initCode ++ [.skip, .give true])
  release := .skip :: p.guardedCode true p.releaseCode

/-! ### Blocks are complete -/

theorem isBalanced_clear (slots : List String) :
    IsBalanced Instruction.bracket (slots.map .clear) := by
  induction slots with
  | nil => exact .nil
  | cons slot slots ih => exact ih.cons rfl

theorem isBalanced_singleton {i : Instruction} (h : i.bracket = .neither) :
    IsBalanced Instruction.bracket [i] := IsBalanced.nil.cons h

theorem isBalanced_undoCode (p : Proxy) : IsBalanced Instruction.bracket p.undoCode := by
  have hheld : IsBalanced Instruction.bracket [.deleteHeld "sClazz", .clear "sClazz"] :=
    (isBalanced_singleton rfl).cons rfl
  exact hheld.block (x := .enter (.isHeld "sClazz")) (y := .close) rfl rfl
    (isBalanced_clear p.slots)

/-- What stands in the block of the comparison with null. -/
theorem isBalanced_failure (p : Proxy) :
    IsBalanced Instruction.bracket (.skip :: (p.undoCode ++ [.give false])) :=
  (p.isBalanced_undoCode.append (isBalanced_singleton rfl)).cons rfl

theorem isBalanced_checkCode (p : Proxy) (operand : Operand) :
    IsBalanced Instruction.bracket (p.checkCode operand) := by
  have hinner := p.isBalanced_failure.block (x := .enter (.isNull operand)) (y := .close) rfl rfl
    .nil
  have houter := hinner.block (x := .enter .always) (y := .close) rfl rfl .nil
  simpa [checkCode] using houter

theorem isBalanced_initCode (p : Proxy) : IsBalanced Instruction.bracket p.initCode := by
  have hlookup (id : Lookup) : IsBalanced Instruction.bracket (p.lookupCode id) :=
    IsBalanced.cons (x := Instruction.lookUp id) rfl (p.isBalanced_checkCode (.member id.slot))
  have hlookups : IsBalanced Instruction.bracket (p.lookups.flatMap p.lookupCode) :=
    .flatMap fun id _ => hlookup id
  have hend : IsBalanced Instruction.bracket [.setFlag true] := isBalanced_singleton rfl
  have hheld := (p.isBalanced_checkCode (.member "sClazz")).append (hlookups.append hend)
  have hfound := (hheld.cons (x := .deleteFound) rfl).cons (x := .hold "sClazz") rfl
  exact ((p.isBalanced_checkCode .clazz).append hfound).cons (x := .findClass) rfl

theorem isBalanced_releaseCode (p : Proxy) : IsBalanced Instruction.bracket p.releaseCode := by
  have hend : IsBalanced Instruction.bracket [.setFlag false] := isBalanced_singleton rfl
  have hclear := ((isBalanced_clear p.slots).append hend).cons (x := .clear "sClazz") rfl
  exact hclear.cons (x := .deleteHeld "sClazz") rfl

end Proxy

end JniBindings
