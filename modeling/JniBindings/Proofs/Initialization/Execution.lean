import JniBindings.Proofs.Initialization.Code
import Mathlib.Tactic.SplitIfs
/-!
# Execution of initialisation and release

The functions of a proxy work on its static state and on the references that the virtual machine
counts for it. The virtual machine may answer any lookup with null or not, so what a call does
depends on a sequence of answers. `Control.next` executes one instruction of the code that a call
still has in front of it, and `Control.finish` goes on until the call returns.
-/

namespace JniBindings

/-- A class, an id or a reference that the virtual machine hands out; null is `none`. -/
abbrev Handle := Nat

/-- The static state of a proxy, whose pointers are found by their names, and the references that
are live because of it. -/
structure Memory where
  initialized : Bool
  pointers : String → Option Handle
  globalRefs : List Handle
  localRefs : List Handle

namespace Memory

/-- The memory before the first call: the flag is false, and all pointers are null. -/
def initial : Memory := ⟨false, fun _ => none, [], []⟩

/-- The memory with something else in one pointer. -/
def set (σ : Memory) (member : String) (value : Option Handle) : Memory :=
  { σ with pointers := fun s => if s = member then value else σ.pointers s }

theorem pointers_set (σ : Memory) (member : String) (value : Option Handle) (s : String) :
    (σ.set member value).pointers s = if s = member then value else σ.pointers s := rfl

theorem pointers_set_self (σ : Memory) (member : String) (value : Option Handle) :
    (σ.set member value).pointers member = value := if_pos rfl

theorem pointers_set_of_ne (σ : Memory) {member s : String} (h : s ≠ member)
    (value : Option Handle) : (σ.set member value).pointers s = σ.pointers s := if_neg h

end Memory

/-- The references without a given one; deleting null does nothing. -/
def deleteRef (ref : Option Handle) (refs : List Handle) : List Handle :=
  match ref with
  | none => refs
  | some r => refs.erase r

theorem deleteRef_toList (ref : Option Handle) : deleteRef ref ref.toList = [] := by
  cases ref with
  | none => rfl
  | some r => rw [deleteRef, Option.toList_some, List.erase_cons_head]

/-- What an operand is, `found` being what the local variable `clazz` holds. -/
def Operand.value (found : Option Handle) (σ : Memory) : Operand → Option Handle
  | clazz => found
  | member name => σ.pointers name

/-- Whether a block is entered. -/
def Condition.holds (found : Option Handle) (σ : Memory) : Condition → Bool
  | always => true
  | flagIs value => σ.initialized = value
  | isNull operand => (operand.value found σ).isNone
  | isHeld member => (σ.pointers member).isSome

namespace Instruction

/-- What an instruction does to the memory; `answer` is what the virtual machine returns. -/
def effect (found answer : Option Handle) (σ : Memory) : Instruction → Memory
  | findClass => { σ with localRefs := answer.toList ++ σ.localRefs }
  | hold member => { σ.set member answer with globalRefs := answer.toList ++ σ.globalRefs }
  | deleteFound => { σ with localRefs := deleteRef found σ.localRefs }
  | deleteHeld member => { σ with globalRefs := deleteRef (σ.pointers member) σ.globalRefs }
  | lookUp id => σ.set id.slot answer
  | clear member => σ.set member none
  | setFlag value => { σ with initialized := value }
  | skip | enter _ | lock | close | give _ => σ

/-- The local variable after an instruction. -/
def foundAfter (found answer : Option Handle) : Instruction → Option Handle
  | findClass => answer
  | _ => found

/-- An initialisation goes on from the lookup of the class until the flag is set. -/
def busyAfter (isBusy : Bool) : Instruction → Bool
  | findClass => true
  | setFlag _ => false
  | _ => isBusy

/-- The instruction changes the memory. -/
def acts : Instruction → Bool
  | findClass | hold _ | deleteFound | deleteHeld _ | lookUp _ | clear _ | setFlag _ => true
  | skip | enter _ | lock | close | give _ => false

/-- The instruction neither has to do with blocks nor returns. -/
def isPlain : Instruction → Bool
  | enter _ | lock | close | give _ => false
  | _ => true

end Instruction

/-- Where a call is: in front of the rest of its code, with the class that it has found and with the
blocks that it is in, the innermost one first; on its way out of these blocks; or back at the
caller. Of each block it is known whether the lock has been taken in it. A function without a result
returns nothing. -/
inductive Control
  | running (isBusy : Bool) (found : Option Handle) (scopes : List Bool)
    (rest : List Instruction)
  | leaving (result : Option Bool) (scopes : List Bool)
  | returned (result : Option Bool)

namespace Control

/-- One step of a call. The lock is given back at the end of the block in which it was taken. -/
def next (answer : Option Handle) (σ : Memory) : Control → Control × Memory
  | running _ _ scopes [] => (leaving none scopes, σ)
  | running isBusy found scopes (i :: rest) =>
    match i with
    | .enter condition =>
      if condition.holds found σ then (running isBusy found (false :: scopes) rest, σ)
      else (running isBusy found scopes (behindBlock Instruction.bracket rest), σ)
    | .lock => (running isBusy found (true :: scopes.tail) rest, σ)
    | .close => (running isBusy found scopes.tail rest, σ)
    | .give value => (leaving (some value) scopes, σ)
    | i => (running (i.busyAfter isBusy) (i.foundAfter found answer) scopes rest,
        i.effect found answer σ)
  | leaving result (_ :: scopes) => (leaving result scopes, σ)
  | leaving result [] => (returned result, σ)
  | returned result => (returned result, σ)

section Next

variable {isBusy : Bool} {found answer : Option Handle} {scopes : List Bool}
  {rest : List Instruction} {σ : Memory}

theorem next_of_isPlain {i : Instruction} (h : i.isPlain) :
    (running isBusy found scopes (i :: rest)).next answer σ
      = (running (i.busyAfter isBusy) (i.foundAfter found answer) scopes rest,
        i.effect found answer σ) := by
  cases i with
  | enter | lock | close | give => cases h
  | _ => rfl

theorem next_enter_of_holds {condition : Condition} (h : condition.holds found σ = true) :
    (running isBusy found scopes (.enter condition :: rest)).next answer σ
      = (running isBusy found (false :: scopes) rest, σ) := if_pos h

theorem next_enter_of_not_holds {condition : Condition} (h : condition.holds found σ = false) :
    (running isBusy found scopes (.enter condition :: rest)).next answer σ
      = (running isBusy found scopes (behindBlock Instruction.bracket rest), σ) :=
  if_neg (by simp [h])

end Next

/-- What the call returned. -/
def result? : Control → Option (Option Bool)
  | returned result => some result
  | _ => none

/-- The blocks that the call is in. -/
def scopes : Control → List Bool
  | running _ _ scopes _ | leaving _ scopes => scopes
  | returned _ => []

/-- The instruction that comes next. -/
def instruction? : Control → Option Instruction
  | running _ _ _ rest => rest.head?
  | leaving _ _ | returned _ => none

/-- The call has the lock. -/
def hasLock (c : Control) : Bool := c.scopes.contains true

/-- The call is about to change the memory. -/
def acts (c : Control) : Bool := c.instruction?.any Instruction.acts

/-- The call is about to look up the class, or has done so and has not come to the end yet, where it
sets the flag or, after the rollback, returns. -/
def isInitializing : Control → Bool
  | running isBusy _ _ rest => isBusy || rest.head? = some .findClass
  | leaving _ _ | returned _ => false

/-- Only some instructions change the memory. -/
theorem memory_next {c : Control} (h : c.acts = false) (answer : Option Handle) (σ : Memory) :
    (c.next answer σ).2 = σ := by
  cases c with
  | running isBusy found scopes rest =>
    cases rest with
    | nil => rfl
    | cons i rest =>
      cases i with
      | enter condition =>
        rw [next]
        split <;> rfl
      | skip | lock | close | give value => rfl
      | findClass | hold | deleteFound | deleteHeld | lookUp | clear | setFlag => cases h
  | leaving result scopes => cases scopes <;> rfl
  | returned result => rfl

/-! ### Calls end -/

theorem length_behindBlock_le (xs : List Instruction) :
    (behindBlock Instruction.bracket xs).length ≤ xs.length := by
  have hsplit {depth : Nat} {xs inside after : List Instruction}
      (h : splitBlock Instruction.bracket depth xs = some (inside, after)) :
      after.length ≤ xs.length := by
    fun_induction splitBlock Instruction.bracket depth xs generalizing inside after with
    | case1 => cases h
    | case2 x xs =>
      cases h
      exact Nat.le_succ _
    | _ depth x xs _ ih =>
      obtain ⟨⟨inside', after'⟩, h', heq⟩ := Option.map_eq_some_iff.1 h
      cases heq
      exact (ih h').trans (Nat.le_succ _)
  rw [behindBlock]
  cases h : splitBlock Instruction.bracket 0 xs with
  | none => exact Nat.zero_le _
  | some parts => exact hsplit h

/-- How many steps a call takes at most. -/
def bound : Control → Nat
  | running _ _ scopes rest => 2 * rest.length + scopes.length + 2
  | leaving _ scopes => scopes.length + 1
  | returned _ => 0

theorem bound_next_lt {c : Control} (h : c.result? = none) (answer : Option Handle) (σ : Memory) :
    (c.next answer σ).1.bound < c.bound := by
  cases c with
  | running isBusy found scopes rest =>
    cases rest with
    | nil => simp [next, bound]
    | cons i rest =>
      have hbehind := length_behindBlock_le rest
      cases i with
      | enter condition =>
        rw [next]
        split <;> simp only [bound, List.length_cons] <;> omega
      | lock | close | give value =>
        simp only [next, bound, List.length_cons, List.length_tail]
        omega
      | skip | findClass | hold | deleteFound | deleteHeld | lookUp | clear | setFlag =>
        simp only [next, bound, List.length_cons]
        omega
  | leaving result scopes => cases scopes <;> simp [next, bound]
  | returned result => cases h

/-- What a call returns and the memory that it leaves behind. -/
def finish (answers : Nat → Option Handle) (c : Control) (σ : Memory) : Option Bool × Memory :=
  match h : c.result? with
  | some result => (result, σ)
  | none => finish (fun n => answers (n + 1)) (c.next (answers 0) σ).1 (c.next (answers 0) σ).2
termination_by c.bound
decreasing_by exact bound_next_lt h _ _

end Control

/-! ### Sequences of calls -/

/-- A call, with the answers of the virtual machine; every step of the call has its own. -/
structure Call where
  entry : Entry
  answers : Nat → Option Handle

namespace Program

/-- The beginning of a call. -/
def start (program : Program) (entry : Entry) : Control :=
  .running false none [] (program.body entry)

/-- What a call returns and the memory that it leaves behind. -/
def call (program : Program) (c : Call) (σ : Memory) : Option Bool × Memory :=
  (program.start c.entry).finish c.answers σ

/-- The memory after some calls. -/
def memoryAfter (program : Program) (calls : List Call) : Memory :=
  calls.foldl (fun σ c => (program.call c σ).2) .initial

end Program

end JniBindings
