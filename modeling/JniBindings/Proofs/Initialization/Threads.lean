import JniBindings.Proofs.Initialization.Calls
import Mathlib.Logic.Function.Basic
import Mathlib.Logic.Relation
/-!
# Initialisation by several threads

Any number of threads call `initClazz` of a proxy that uses a lock, and their steps interleave in
any order. The thread that has the lock is led to where it gives it back, since no other thread
changes the memory; the others only look at the flag, which is set last (`Proxy.IsOutside`). So they
see either a state that is not initialised, and wait, or one that is completely initialised, and
return.
-/

namespace JniBindings

/-! ### Machines -/

/-- Where every thread is, and the memory that they share. -/
structure Machine (Thread : Type) where
  control : Thread → Control
  memory : Memory

namespace Machine

variable {Thread : Type} [DecidableEq Thread]

/-- The machine with one thread somewhere else, and another memory. -/
def move (m : Machine Thread) (t : Thread) (c : Control) (σ : Memory) : Machine Thread :=
  ⟨Function.update m.control t c, σ⟩

theorem control_move_self (m : Machine Thread) (t : Thread) (c : Control) (σ : Memory) :
    (m.move t c σ).control t = c := by
  simp only [move, Function.update_self]

theorem control_move_of_ne (m : Machine Thread) {t u : Thread} (h : u ≠ t) (c : Control)
    (σ : Memory) : (m.move t c σ).control u = m.control u := by
  simp only [move, Function.update_of_ne h]

/-- The machine after a step of one thread. -/
def advance (m : Machine Thread) (t : Thread) (answer : Option Handle) : Machine Thread :=
  m.move t ((m.control t).next answer m.memory).1 ((m.control t).next answer m.memory).2

/-- A step of some thread, which waits in front of the lock while a thread has it, or a new call by
a thread whose last call has returned. -/
inductive Step (program : Program) (m : Machine Thread) : Machine Thread → Prop
  | advance (t : Thread) (answer : Option Handle)
    (h : (m.control t).instruction? = some .lock → ∀ u, (m.control u).hasLock = false) :
    Step program m (m.advance t answer)
  | callAgain (t : Thread) (result : Option Bool) (h : m.control t = .returned result) :
    Step program m (m.move t (program.start .init) m.memory)

/-- One machine comes from another by any number of steps. -/
def Reaches (program : Program) : Machine Thread → Machine Thread → Prop :=
  Relation.ReflTransGen (Step program)

end Machine

/-! ### Outside of the lock -/

namespace Proxy

/-- What a call does once it has the lock. -/
def lockedCode (p : Proxy) : List Instruction :=
  .enter (.flagIs false) :: (p.initCode ++ [.close, .close, .skip, .give true])

theorem init_program {p : Proxy} (hsafe : p.config.threadSafe = true) :
    p.program.init = .skip :: .enter (.flagIs false) :: .lock :: p.lockedCode := by
  simp [program, guardedCode, lockedCode, hsafe]

theorem behindBlock_lockedCode (p : Proxy) :
    behindBlock Instruction.bracket (.lock :: p.lockedCode) = [.skip, .give true] := by
  have hbody : IsBalanced Instruction.bracket
      (.lock :: .enter (.flagIs false) :: (p.initCode ++ .close :: [])) :=
    (p.isBalanced_initCode.block (x := .enter (.flagIs false)) (y := .close) rfl rfl .nil).cons rfl
  have hcode : .lock :: p.lockedCode
      = (.lock :: .enter (.flagIs false) :: (p.initCode ++ .close :: []))
        ++ .close :: [.skip, .give true] := by
    simp [lockedCode]
  rw [hcode, hbody.behindBlock_append (y := .close) rfl]

/-- The places of a call that does not have the lock: on its way to the lock, or on its way back to
the caller. It is going to return true only if the state is ready. -/
inductive IsOutside (p : Proxy) (ready : Prop) : Control → Prop
  | starting : IsOutside p ready
    (.running false none [] (.skip :: .enter (.flagIs false) :: .lock :: p.lockedCode))
  | looking : IsOutside p ready
    (.running false none [] (.enter (.flagIs false) :: .lock :: p.lockedCode))
  | waiting : IsOutside p ready (.running false none [false] (.lock :: p.lockedCode))
  | succeeding {found : Option Handle} (hready : ready) :
    IsOutside p ready (.running false found [] [.skip, .give true])
  | returning {found : Option Handle} (hready : ready) :
    IsOutside p ready (.running false found [] [.give true])
  | leaving {result : Option Bool} (hready : result = some true → ready) :
    IsOutside p ready (.leaving result [])
  | returned {result : Option Bool} (hready : result = some true → ready) :
    IsOutside p ready (.returned result)

namespace IsOutside

variable {p : Proxy} {ready : Prop} {c : Control} {σ : Memory}

theorem mono {ready' : Prop} (h : p.IsOutside ready c) (himp : ready → ready') :
    p.IsOutside ready' c := by
  cases h with
  | starting => exact .starting
  | looking => exact .looking
  | waiting => exact .waiting
  | succeeding hready => exact .succeeding (himp hready)
  | returning hready => exact .returning (himp hready)
  | leaving hready => exact .leaving fun h => himp (hready h)
  | returned hready => exact .returned fun h => himp (hready h)

theorem hasLock (h : p.IsOutside ready c) : c.hasLock = false := by cases h <;> rfl

theorem acts (h : p.IsOutside ready c) : c.acts = false := by cases h <;> rfl

theorem isInitializing (h : p.IsOutside ready c) : c.isInitializing = false := by cases h <;> rfl

/-- A call stays outside of the lock, or it takes the lock. -/
theorem next (h : p.IsOutside ready c) (hσ : σ.initialized = true → ready)
    (answer : Option Handle) : p.IsOutside ready (c.next answer σ).1
      ∨ c.instruction? = some .lock
        ∧ (c.next answer σ).1 = .running false none [true] p.lockedCode := by
  cases h with
  | starting => exact .inl .looking
  | looking =>
    cases hflag : σ.initialized with
    | true =>
      rw [Control.next_enter_of_not_holds (by rw [Condition.holds, hflag]; rfl),
        behindBlock_lockedCode]
      exact .inl (.succeeding (hσ hflag))
    | false =>
      rw [Control.next_enter_of_holds (by rw [Condition.holds, hflag]; rfl)]
      exact .inl .waiting
  | waiting => exact .inr ⟨rfl, rfl⟩
  | succeeding hready => exact .inl (.returning hready)
  | returning hready => exact .inl (.leaving fun _ => hready)
  | leaving hready => exact .inl (.returned hready)
  | returned hready => exact .inl (.returned hready)

end IsOutside

/-! ### With the lock -/

/-- What is true of the call that has the lock: it changes the memory only in the course of an
initialisation, which it does not begin or go on with once the flag is set, and then everything is
initialised. -/
structure IsInside (p : Proxy) (c : Control) (σ : Memory) : Prop where
  hasLock : c.hasLock = true
  acts : c.acts = true → c.isInitializing = true
  flag : c.isInitializing = true → σ.initialized = false
  ready : σ.initialized = true → σ.IsReady p.pointers

/-- The lock has been given back. -/
structure HasLeft (p : Proxy) (c : Control) (σ : Memory) : Prop where
  outside : p.IsOutside (σ.IsReady p.pointers) c
  settled : σ.IsSettled p.pointers

/-- Whatever the virtual machine answers, the call that has the lock gives it back. -/
abbrev LeadsOut (p : Proxy) : Control → Memory → Prop := Leads p.IsInside p.HasLeft

variable {p : Proxy} {c : Control} {σ : Memory}

/-- Away from what initialises the state, nothing but the lock counts. -/
theorem isInside_of_not_isInitializing (hlock : c.hasLock = true) (hacts : c.acts = false)
    (hinitializing : c.isInitializing = false)
    (hready : σ.initialized = true → σ.IsReady p.pointers) : p.IsInside c σ where
  hasLock := hlock
  acts h := absurd (hacts.symm.trans h) Bool.false_ne_true
  flag h := absurd (hinitializing.symm.trans h) Bool.false_ne_true
  ready := hready

/-- On its way out of its blocks a call gives the lock back. -/
theorem leadsOut_leaving (hσ : σ.IsReleased) (inner : List Bool) :
    p.LeadsOut (.leaving (some false) (inner ++ [true])) σ := by
  have hinside (scopes : List Bool) (h : true ∈ scopes) :
      p.IsInside (.leaving (some false) scopes) σ := by
    refine isInside_of_not_isInitializing (List.contains_iff_mem.2 h) rfl rfl fun hflag => ?_
    cases hσ.initialized.symm.trans hflag
  induction inner with
  | nil => exact .step (hinside [true] (by simp)) fun _ => .done ⟨.leaving nofun, .inl hσ⟩
  | cons scope inner ih => exact .step (hinside _ (by simp)) fun _ => ih

theorem leadsOut_ready {found : Option Handle} (hσ : σ.IsReady p.pointers) :
    p.LeadsOut (.running false found [true] [.close, .skip, .give true]) σ :=
  .close (isInside_of_not_isInitializing rfl rfl rfl fun _ => hσ)
    (.done ⟨.succeeding hσ, .inr hσ⟩)

/-- A call that has taken the lock finds a settled state, and settles it. -/
theorem leadsOut_lockedCode (hclazz : "sClazz" ∉ p.slots) (hσ : σ.IsSettled p.pointers) :
    p.LeadsOut (.running false none [true] p.lockedCode) σ := by
  have hcode : p.lockedCode
      = .enter (.flagIs false) :: (p.initCode ++ .close :: [.close, .skip, .give true]) := rfl
  have henter {rest : List Instruction} :
      p.IsInside (.running false none [true] (.enter (.flagIs false) :: rest)) σ := by
    refine isInside_of_not_isInitializing rfl rfl rfl fun hflag =>
      hσ.resolve_left fun hreleased => ?_
    cases hreleased.initialized.symm.trans hflag
  rw [hcode]
  rcases hσ with hreleased | hready
  · refine .enter (by rw [Condition.holds, hreleased.initialized]; rfl) henter ?_
    refine ((initializes_initCode hclazz hreleased).mono fun c σ h => ?_).trans ?_
    · refine ⟨List.contains_iff_mem.2 (h.scopes.subset (by simp)), h.acts, fun _ => h.initialized,
        fun hflag => ?_⟩
      cases h.initialized.symm.trans hflag
    · rintro c σ (⟨found, rfl, hready⟩ | ⟨inner, rfl, hreleased⟩)
      · exact .close (isInside_of_not_isInitializing rfl rfl rfl fun _ => hready)
          (leadsOut_ready hready)
      · rw [List.append_cons]
        exact leadsOut_leaving hreleased _
  · exact .pass (by rw [Condition.holds, hready.initialized]; rfl) p.isBalanced_initCode henter
      (leadsOut_ready hready)

/-- A call that has the lock is led on by its own steps. -/
theorem LeadsOut.isInside (h : p.LeadsOut c σ) (hlock : c.hasLock = true) : p.IsInside c σ := by
  cases h with
  | done h =>
    rw [h.outside.hasLock] at hlock
    cases hlock
  | step hinside _ => exact hinside

theorem LeadsOut.next (h : p.LeadsOut c σ) (hlock : c.hasLock = true) (answer : Option Handle) :
    p.LeadsOut (c.next answer σ).1 (c.next answer σ).2 := by
  cases h with
  | done h =>
    rw [h.outside.hasLock] at hlock
    cases hlock
  | step _ hnext => exact hnext answer

/-- It has left as soon as it does not have the lock any more. -/
theorem LeadsOut.hasLeft (h : p.LeadsOut c σ) (hlock : c.hasLock = false) : p.HasLeft c σ := by
  cases h with
  | done h => exact h
  | step hinside _ =>
    rw [hinside.hasLock] at hlock
    cases hlock

end Proxy

/-! ### Invariant -/

namespace Machine

variable {Thread : Type} {p : Proxy} {m m' : Machine Thread} {t : Thread}

/-- All threads begin, and the state is as calls have left it. -/
structure IsStart (p : Proxy) (m : Machine Thread) : Prop where
  control : ∀ t, m.control t = p.program.start .init
  memory : m.memory.IsSettled p.pointers

/-- At most one thread has the lock, and it is led out; all others are outside. When no thread has
the lock, the memory is settled. -/
structure Invariant (p : Proxy) (m : Machine Thread) : Prop where
  unique : ∀ t u, (m.control t).hasLock = true → (m.control u).hasLock = true → t = u
  inside : ∀ t, (m.control t).hasLock = true → p.LeadsOut (m.control t) m.memory
  outside : ∀ t, (m.control t).hasLock = false →
    p.IsOutside (m.memory.IsReady p.pointers) (m.control t)
  free : (∀ t, (m.control t).hasLock = false) → m.memory.IsSettled p.pointers

namespace Invariant

theorem of_isStart (hsafe : p.config.threadSafe = true) (h : m.IsStart p) : m.Invariant p := by
  have hcontrol (t : Thread) : m.control t = .running false none []
      (.skip :: .enter (.flagIs false) :: .lock :: p.lockedCode) := by
    rw [h.control t, Program.start, Program.body, Proxy.init_program hsafe]
  have hlock (t : Thread) : (m.control t).hasLock = false := by
    rw [hcontrol t]
    rfl
  refine ⟨fun t u ht => ?_, fun t ht => ?_, fun t _ => ?_, fun _ => h.memory⟩
  · rw [hlock t] at ht
    cases ht
  · rw [hlock t] at ht
    cases ht
  · rw [hcontrol t]
    exact .starting

/-- An initialised state is ready, whether a thread has the lock or not. -/
theorem isReady_of_initialized (h : m.Invariant p) (hm : m.memory.initialized = true) :
    m.memory.IsReady p.pointers := by
  by_cases hfree : ∀ t, (m.control t).hasLock = false
  · refine (h.free hfree).resolve_left fun hreleased => ?_
    cases hreleased.initialized.symm.trans hm
  · obtain ⟨t, ht⟩ := not_forall.1 hfree
    have ht := Bool.of_not_eq_false ht
    exact ((h.inside t ht).isInside ht).ready hm

theorem hasLock_of_isInitializing (h : m.Invariant p) (ht : (m.control t).isInitializing = true) :
    (m.control t).hasLock = true := by
  by_contra hlock
  rw [(h.outside t (Bool.not_eq_true _ ▸ hlock)).isInitializing] at ht
  cases ht

/-- Only threads that initialise the state change the memory. -/
theorem isInitializing_of_acts (h : m.Invariant p) (ht : (m.control t).acts = true) :
    (m.control t).isInitializing = true := by
  cases hlock : (m.control t).hasLock with
  | true => exact ((h.inside t hlock).isInside hlock).acts ht
  | false =>
    rw [(h.outside t hlock).acts] at ht
    cases ht

theorem not_isInitializing (h : m.Invariant p) (hm : m.memory.initialized = true) (t : Thread) :
    (m.control t).isInitializing = false := by
  by_contra hbusy
  have hbusy := Bool.of_not_eq_false hbusy
  have hlock := h.hasLock_of_isInitializing hbusy
  cases (((h.inside t hlock).isInside hlock).flag hbusy).symm.trans hm

theorem not_acts (h : m.Invariant p) (hm : m.memory.initialized = true) (t : Thread) :
    (m.control t).acts = false := by
  by_contra hacts
  have hbusy := h.isInitializing_of_acts (Bool.of_not_eq_false hacts)
  rw [h.not_isInitializing hm t] at hbusy
  cases hbusy

/-! ### Steps -/

variable [DecidableEq Thread]

/-- A thread that does not have the lock goes on without it. -/
theorem move_outside (h : m.Invariant p) (ht : (m.control t).hasLock = false) {c : Control}
    (hc : p.IsOutside (m.memory.IsReady p.pointers) c) : (m.move t c m.memory).Invariant p := by
  have hlock (u : Thread) : ((m.move t c m.memory).control u).hasLock = (m.control u).hasLock := by
    by_cases hut : u = t
    · rw [hut, control_move_self, hc.hasLock, ht]
    · rw [control_move_of_ne m hut]
  have hne {u : Thread} (hu : (m.control u).hasLock = true) : u ≠ t := by
    rintro rfl
    rw [ht] at hu
    cases hu
  refine ⟨fun u v hu hv => ?_, fun u hu => ?_, fun u hu => ?_, fun hfree => ?_⟩
  · rw [hlock] at hu hv
    exact h.unique u v hu hv
  · rw [hlock] at hu
    rw [control_move_of_ne m (hne hu)]
    exact h.inside u hu
  · by_cases hut : u = t
    · rw [hut, control_move_self]
      exact hc
    · rw [hlock] at hu
      rw [control_move_of_ne m hut]
      exact h.outside u hu
  · exact h.free fun u => (hlock u).symm.trans (hfree u)

/-- No other thread has the lock, so this one may change the memory, and keep the lock or not. -/
theorem move_inside (h : m.Invariant p) (hothers : ∀ u ≠ t, (m.control u).hasLock = false)
    {c : Control} {σ : Memory} (hc : p.LeadsOut c σ)
    (hready : m.memory.IsReady p.pointers → σ.IsReady p.pointers) :
    (m.move t c σ).Invariant p := by
  have hothers' {u : Thread} (hu : ((m.move t c σ).control u).hasLock = true) : u = t := by
    by_contra hut
    rw [control_move_of_ne m hut, hothers u hut] at hu
    cases hu
  refine ⟨fun u v hu hv => (hothers' hu).trans (hothers' hv).symm, fun u hu => ?_, fun u hu => ?_,
    fun hfree => ?_⟩
  · rw [hothers' hu, control_move_self]
    exact hc
  · by_cases hut : u = t
    · rw [hut, control_move_self] at hu ⊢
      exact (hc.hasLeft hu).outside
    · rw [control_move_of_ne m hut] at hu ⊢
      exact (h.outside u hu).mono hready
  · have ht := hfree t
    rw [control_move_self] at ht
    exact (hc.hasLeft ht).settled

theorem advance (h : m.Invariant p) (hclazz : "sClazz" ∉ p.slots) {answer : Option Handle}
    (henabled : (m.control t).instruction? = some .lock → ∀ u, (m.control u).hasLock = false) :
    (m.advance t answer).Invariant p := by
  rw [Machine.advance]
  cases hlock : (m.control t).hasLock with
  | true =>
    refine h.move_inside (fun u hut => ?_) ((h.inside t hlock).next hlock answer) fun hready => ?_
    · by_contra hu
      exact hut (h.unique u t (Bool.of_not_eq_false hu) hlock)
    · rwa [Control.memory_next (h.not_acts hready.initialized t)]
  | false =>
    have houtside := h.outside t hlock
    rw [Control.memory_next houtside.acts]
    rcases houtside.next h.isReady_of_initialized answer with hnext | ⟨hwaits, hnext⟩
    · exact h.move_outside hlock hnext
    · rw [hnext]
      have hfree := henabled hwaits
      exact h.move_inside (fun u _ => hfree u)
        (Proxy.leadsOut_lockedCode hclazz (h.free hfree)) id

theorem step (h : m.Invariant p) (hsafe : p.config.threadSafe = true) (hclazz : "sClazz" ∉ p.slots)
    (hstep : Step p.program m m') : m'.Invariant p := by
  cases hstep with
  | advance t answer henabled => exact h.advance hclazz henabled
  | callAgain t result ht =>
    refine h.move_outside (by rw [ht]; rfl) ?_
    rw [Program.start, Program.body, Proxy.init_program hsafe]
    exact .starting

theorem reaches (h : m.Invariant p) (hsafe : p.config.threadSafe = true)
    (hclazz : "sClazz" ∉ p.slots) (hm : Reaches p.program m m') : m'.Invariant p := by
  induction hm with
  | refl => exact h
  | tail _ hstep ih => exact ih.step hsafe hclazz hstep

end Invariant

variable [DecidableEq Thread]

/-! ### Initialised states stay -/

theorem initialized_step (h : m.Invariant p) (hm : m.memory.initialized = true)
    (hstep : Step p.program m m') : m'.memory.initialized = true := by
  cases hstep with
  | advance t answer henabled =>
    change ((m.control t).next answer m.memory).2.initialized = true
    rwa [Control.memory_next (h.not_acts hm t)]
  | callAgain t result ht => exact hm

theorem initialized_reaches (h : m.Invariant p) (hsafe : p.config.threadSafe = true)
    (hclazz : "sClazz" ∉ p.slots) (hm : m.memory.initialized = true)
    (hm' : Reaches p.program m m') : m'.memory.initialized = true := by
  induction hm' with
  | refl => exact hm
  | tail hreaches hstep ih => exact initialized_step (h.reaches hsafe hclazz hreaches) ih hstep

/-- What is true of every machine that is reached: at most one thread initialises the state, and
only this one changes the memory; once the flag is set it stays set, and nobody executes a lookup or
a rollback any more; and when a thread has returned true, the class is held and all slots are
filled. -/
structure IsSafe (p : Proxy) (m : Machine Thread) : Prop where
  unique : ∀ t u, (m.control t).isInitializing = true → (m.control u).isInitializing = true → t = u
  acts : ∀ t, (m.control t).acts = true → (m.control t).isInitializing = true
  stays : m.memory.initialized = true → ∀ m', Reaches p.program m m' →
    m'.memory.initialized = true
      ∧ ∀ t, (m'.control t).isInitializing = false ∧ (m'.control t).acts = false
  filled : ∀ t, m.control t = .returned (some true) →
    ∀ member ∈ p.pointers, m.memory.pointers member ≠ none

/-- The files of a proxy that uses a lock define the program of its functions, and a state with an
atomic flag and a lock. However threads that call `initClazz` interleave, initialisation is safe. As
in `Proxy.call_memoryAfter`, no slot is called like the pointer for the class. -/
theorem initialization_safe {start : Machine Thread} (hclazz : "sClazz" ∉ p.slots)
    (hsafe : p.config.threadSafe = true) (hstart : start.IsStart p)
    (hm : Reaches p.program start m) :
    (p.IsReadable → p.Emits p.program p.stateMembers)
      ∧ (.flag true ∈ p.stateMembers ∧ .mutex ∈ p.stateMembers
        ∧ p.stateMembers.filterMap StateMember.pointerName? = p.pointers)
      ∧ m.IsSafe p := by
  have hinvariant := (Invariant.of_isStart hsafe hstart).reaches hsafe hclazz hm
  refine ⟨Proxy.emits, ⟨?_, ?_, p.filterMap_pointerName?_stateMembers⟩, fun t u ht hu => ?_,
    fun t => hinvariant.isInitializing_of_acts, fun hinitialized m' hm' => ?_, fun t ht => ?_⟩
  · simp [Proxy.stateMembers, hsafe]
  · simp [Proxy.stateMembers, hsafe]
  · exact hinvariant.unique t u (hinvariant.hasLock_of_isInitializing ht)
      (hinvariant.hasLock_of_isInitializing hu)
  · have hinitialized' := initialized_reaches hinvariant hsafe hclazz hinitialized hm'
    have hinvariant' := hinvariant.reaches hsafe hclazz hm'
    exact ⟨hinitialized', fun t => ⟨hinvariant'.not_isInitializing hinitialized' t,
      hinvariant'.not_acts hinitialized' t⟩⟩
  · have houtside := hinvariant.outside t (by rw [ht]; rfl)
    rw [ht] at houtside
    cases houtside with
    | returned hready => exact fun member => ((hready rfl).pointers member).2

/-- The proxy of a class with one method, with a lock. -/
def lockedProxy : Proxy :=
  { names := ⟨"A", "A", "A", "A", "AProxy", none⟩
    config := {}
    headerName := "AProxy.h"
    sourceName := "AProxy.cpp"
    constants := []
    constructors := []
    methods := [⟨"f", "sMethod_f_0", "f", "()V", "void f()", false, .primitive .void,
      .scalar .void, []⟩]
    fields := []
    warnings := [] }

/-- One thread initialises the state while another one waits for the lock. -/
theorem initialization_safe_two_threads :
    let start : Machine Bool := ⟨fun _ => lockedProxy.program.start .init, .initial⟩
    let m := (((((start.advance true none).advance true none).advance true none).advance true
      none).advance false none).advance false none
    "sClazz" ∉ lockedProxy.slots ∧ lockedProxy.config.threadSafe = true
      ∧ start.IsStart lockedProxy ∧ Reaches lockedProxy.program start m
      ∧ (m.control true).isInitializing = true ∧ (m.control false).instruction? = some .lock
      ∧ lockedProxy.Emits lockedProxy.program lockedProxy.stateMembers
      ∧ (.flag true ∈ lockedProxy.stateMembers ∧ .mutex ∈ lockedProxy.stateMembers
        ∧ lockedProxy.stateMembers.filterMap StateMember.pointerName? = lockedProxy.pointers)
      ∧ m.IsSafe lockedProxy := by
  intro start m
  have hclazz : "sClazz" ∉ lockedProxy.slots := by decide +kernel
  have hstart : start.IsStart lockedProxy := ⟨fun _ => rfl, .inl Memory.isReleased_initial⟩
  have hfree : ∀ u, (((start.advance true none).advance true none).control u).hasLock = false := by
    decide
  have hm : Reaches lockedProxy.program start m :=
    (((((Relation.ReflTransGen.single (.advance true none nofun)).tail
      (.advance true none nofun)).tail (.advance true none fun _ => hfree)).tail
        (.advance true none nofun)).tail (.advance false none nofun)).tail
          (.advance false none nofun)
  have hreadable : lockedProxy.IsReadable := by
    refine ⟨by decide +kernel, fun id hid => ?_, nofun⟩
    obtain rfl := List.mem_singleton.1 hid
    exact ⟨by decide +kernel, Cpp.isEnclosed_of_all (by decide +kernel),
      Cpp.isEnclosed_of_all (by decide +kernel)⟩
  obtain ⟨hemits, hmembers, hsafe⟩ := initialization_safe hclazz rfl hstart hm
  exact ⟨hclazz, rfl, hstart, hm, rfl, rfl, hemits hreadable, hmembers, hsafe⟩

end Machine

end JniBindings
