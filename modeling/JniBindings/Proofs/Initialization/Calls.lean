import JniBindings.Proofs.Initialization.Contract
import JniBindings.Proofs.Initialization.Emitted
import JniBindings.Proofs.Proxy.Slots
/-!
# What calls leave behind

Between two calls the state of a proxy is either as in the beginning or completely initialised. In
the course of an initialisation it is neither (`IsPartial`), but every slot that is not filled is
still to be looked up, so that at the end all are filled; and whichever check fails, what it undoes
is no more than the global reference to the class and ids in the slots.
-/

namespace JniBindings

namespace Memory

/-- Nothing is initialised and nothing is live. -/
structure IsReleased (σ : Memory) : Prop where
  initialized : σ.initialized = false
  pointers : ∀ s, σ.pointers s = none
  globalRefs : σ.globalRefs = []
  localRefs : σ.localRefs = []

/-- Everything is initialised, and the only live reference is that to the class. -/
structure IsReady (pointers : List String) (σ : Memory) : Prop where
  initialized : σ.initialized = true
  pointers : ∀ s, σ.pointers s ≠ none ↔ s ∈ pointers
  globalRefs : σ.globalRefs = (σ.pointers "sClazz").toList
  localRefs : σ.localRefs = []

/-- The state between two calls. -/
def IsSettled (pointers : List String) (σ : Memory) : Prop := σ.IsReleased ∨ σ.IsReady pointers

theorem isReleased_initial : initial.IsReleased := ⟨rfl, fun _ => rfl, rfl, rfl⟩

variable {pointers : List String} {held found answer : Option Handle} {locals : List Handle}
  {σ : Memory}

theorem IsReleased.not_isReady (h : σ.IsReleased) : ¬ σ.IsReady pointers := by
  intro hready
  have hinitialized := hready.initialized
  rw [h.initialized] at hinitialized
  cases hinitialized

theorem IsSettled.localRefs (h : σ.IsSettled pointers) : σ.localRefs = [] := by
  rcases h with h | h
  · exact h.localRefs
  · exact h.localRefs

/-- The state in the course of an initialisation, with the reference to the class that it keeps and
with the local references that are live. -/
structure IsPartial (pointers : List String) (held : Option Handle) (locals : List Handle)
    (σ : Memory) : Prop where
  initialized : σ.initialized = false
  clazz : σ.pointers "sClazz" = held
  globalRefs : σ.globalRefs = held.toList
  localRefs : σ.localRefs = locals
  pointers : ∀ s, σ.pointers s ≠ none → s ∈ pointers

/-- Everything is released, except that some pointers are still to be cleared and that the flag is
still to be set. -/
structure IsDropped (initialized : Bool) (todo : List String) (σ : Memory) : Prop where
  flag : σ.initialized = initialized
  pointers : ∀ s, σ.pointers s ≠ none → s ∈ todo
  globalRefs : σ.globalRefs = []
  localRefs : σ.localRefs = []

/-! ### Effects -/

theorem IsReleased.isPartial (h : σ.IsReleased) : σ.IsPartial pointers none [] :=
  ⟨h.initialized, h.pointers "sClazz", h.globalRefs, h.localRefs,
    fun s hs => absurd (h.pointers s) hs⟩

theorem IsPartial.findClass (h : σ.IsPartial pointers held []) :
    (Instruction.findClass.effect found answer σ).IsPartial pointers held answer.toList := by
  refine { h with localRefs := ?_ }
  change answer.toList ++ σ.localRefs = answer.toList
  rw [h.localRefs, List.append_nil]

theorem pointers_set_ne_none {member : String} (hmember : member ∈ pointers)
    (h : ∀ s, σ.pointers s ≠ none → s ∈ pointers) (s : String)
    (hs : (σ.set member answer).pointers s ≠ none) : s ∈ pointers := by
  by_cases hs' : s = member
  · rwa [hs']
  · rw [pointers_set_of_ne σ hs'] at hs
    exact h s hs

theorem IsPartial.hold (h : σ.IsPartial pointers none locals) (hclazz : "sClazz" ∈ pointers) :
    ((Instruction.hold "sClazz").effect found answer σ).IsPartial pointers answer locals where
  initialized := h.initialized
  clazz := pointers_set_self σ "sClazz" answer
  globalRefs := by
    change answer.toList ++ σ.globalRefs = answer.toList
    rw [h.globalRefs]
    exact List.append_nil _
  localRefs := h.localRefs
  pointers := pointers_set_ne_none hclazz h.pointers

theorem IsPartial.deleteFound (h : σ.IsPartial pointers held found.toList) :
    (Instruction.deleteFound.effect found answer σ).IsPartial pointers held [] := by
  refine { h with localRefs := ?_ }
  change deleteRef found σ.localRefs = []
  rw [h.localRefs, deleteRef_toList]

theorem IsPartial.set (h : σ.IsPartial pointers held locals) {slot : String}
    (hslot : slot ∈ pointers) (hne : "sClazz" ≠ slot) :
    (σ.set slot answer).IsPartial pointers held locals where
  initialized := h.initialized
  clazz := (pointers_set_of_ne σ hne answer).trans h.clazz
  globalRefs := h.globalRefs
  localRefs := h.localRefs
  pointers := pointers_set_ne_none hslot h.pointers

theorem IsDropped.clear {initialized : Bool} {slot : String} {todo : List String}
    (h : σ.IsDropped initialized (slot :: todo)) :
    (σ.set slot none).IsDropped initialized todo := by
  refine { h with pointers := fun s hs => ?_ }
  rw [pointers_set] at hs
  split at hs
  · exact absurd rfl hs
  · next hne => exact List.mem_of_ne_of_mem hne (h.pointers s hs)

theorem IsDropped.isReleased (h : σ.IsDropped false []) : σ.IsReleased where
  initialized := h.flag
  pointers s := Classical.byContradiction fun hs => List.not_mem_nil (h.pointers s hs)
  globalRefs := h.globalRefs
  localRefs := h.localRefs

/-- Deleting the only global reference leaves pointers only. -/
theorem isDropped_deleteHeld (found answer : Option Handle) {initialized : Bool}
    (hflag : σ.initialized = initialized) (hpointers : ∀ s, σ.pointers s ≠ none → s ∈ pointers)
    (hglobal : σ.globalRefs = (σ.pointers "sClazz").toList) (hlocal : σ.localRefs = []) :
    ((Instruction.deleteHeld "sClazz").effect found answer σ).IsDropped initialized pointers := by
  refine ⟨hflag, hpointers, ?_, hlocal⟩
  change deleteRef (σ.pointers "sClazz") σ.globalRefs = []
  rw [hglobal, deleteRef_toList]

end Memory

section Clear

variable {during goal : Control → Memory → Prop} {isBusy initialized : Bool}
  {found : Option Handle} {scopes : List Bool} {rest : List Instruction} {σ : Memory}

/-- All pointers are cleared, and what comes then is reached without any. -/
theorem leads_clear
    (hduring : ∀ rest σ, σ.initialized = initialized → during (.running isBusy found scopes rest) σ)
    (hrest : ∀ σ, σ.IsDropped initialized [] →
      Leads during goal (.running isBusy found scopes rest) σ)
    {todo : List String} (h : σ.IsDropped initialized todo) :
    Leads during goal (.running isBusy found scopes (todo.map .clear ++ rest)) σ := by
  induction todo generalizing σ with
  | nil => exact hrest σ h
  | cons slot todo ih => exact .plain rfl (hduring _ σ h.flag) fun _ => ih h.clear

end Clear

/-- In the course of an initialisation the flag is not set, the call stays in given blocks, and it
changes the memory as long as it is initialising only. -/
structure Control.IsWithin (outer : List Bool) (c : Control) (σ : Memory) : Prop where
  initialized : σ.initialized = false
  scopes : outer <:+ c.scopes
  acts : c.acts → c.isInitializing

theorem Control.isWithin_running (inner : List Bool) {outer : List Bool} {found : Option Handle}
    {rest : List Instruction} {σ : Memory} (h : σ.initialized = false) :
    (running true found (inner ++ outer) rest).IsWithin outer σ :=
  ⟨h, List.suffix_append inner outer, fun _ => rfl⟩

namespace Proxy

variable {p : Proxy} {σ : Memory} {held found : Option Handle} {inner outer : List Bool}
  {rest code : List Instruction}

/-! ### Initialisation -/

/-- An initialisation comes to what follows it and has initialised everything, or it is on its way
out and has released everything. -/
def InitOutcome (p : Proxy) (outer : List Bool) (rest : List Instruction) (c : Control)
    (σ : Memory) : Prop :=
  (∃ found, c = .running false found outer rest ∧ σ.IsReady p.pointers)
    ∨ ∃ inner, c = .leaving (some false) (inner ++ outer) ∧ σ.IsReleased

/-- A call that is in given blocks initialises the state. -/
def Initializes (p : Proxy) (outer : List Bool) (rest : List Instruction) :
    Control → Memory → Prop :=
  Leads (Control.IsWithin outer) (p.InitOutcome outer rest)

theorem initializes_undo (h : σ.IsPartial p.pointers held []) :
    p.Initializes outer rest
      (.running true found (inner ++ outer) (p.undoCode ++ .give false :: code)) σ := by
  have hclear {todo : List String} {σ : Memory} (h : σ.IsDropped false todo) :
      p.Initializes outer rest
        (.running true found (inner ++ outer) (todo.map .clear ++ .give false :: code)) σ :=
    leads_clear (fun _ _ hσ => Control.isWithin_running inner hσ) (fun σ hσ =>
      .give (Control.isWithin_running inner hσ.flag) (.done (.inr ⟨inner, rfl, hσ.isReleased⟩))) h
  have hcode : p.undoCode ++ .give false :: code = .enter (.isHeld "sClazz")
      :: ([.deleteHeld "sClazz", .clear "sClazz"]
        ++ .close :: (p.slots.map .clear ++ .give false :: code)) := rfl
  rw [hcode]
  have hwithin {σ : Memory} {rest : List Instruction} (hσ : σ.initialized = false) :
      (Control.running true found (false :: (inner ++ outer)) rest).IsWithin outer σ :=
    Control.isWithin_running (false :: inner) hσ
  cases held with
  | none =>
    have hslots : ∀ s, σ.pointers s ≠ none → s ∈ p.slots := fun s hs =>
      List.mem_of_ne_of_mem (fun heq => hs (heq ▸ h.clazz)) (h.pointers s hs)
    refine .pass (by rw [Condition.holds, h.clazz]; rfl) ?_
      (Control.isWithin_running inner h.initialized) ?_
    · exact (isBalanced_singleton rfl).cons rfl
    · exact hclear ⟨h.initialized, hslots, h.globalRefs, h.localRefs⟩
  | some c =>
    refine .enter (by rw [Condition.holds, h.clazz]; rfl)
      (Control.isWithin_running inner h.initialized) ?_
    refine .plain rfl (hwithin h.initialized) fun answer => ?_
    have hdropped := Memory.isDropped_deleteHeld found answer h.initialized
      h.pointers (h.clazz.symm ▸ h.globalRefs) h.localRefs
    refine .plain rfl (hwithin hdropped.flag) fun _ => ?_
    exact .close (hwithin hdropped.clear.flag) (hclear hdropped.clear)

/-- A check gives up if what it looks at is null, and is left otherwise. -/
theorem initializes_check {operand : Operand} (hσ : σ.initialized = false)
    (hnull : operand.value found σ = none → σ.IsPartial p.pointers held [])
    (hnext : operand.value found σ ≠ none →
      p.Initializes outer rest (.running true found outer code) σ) :
    p.Initializes outer rest (.running true found outer (p.checkCode operand ++ code)) σ := by
  have hcode : p.checkCode operand ++ code = .enter .always :: .enter (.isNull operand)
      :: ((.skip :: (p.undoCode ++ [.give false])) ++ .close :: .close :: code) := by
    simp [checkCode]
  have hwithin (inner : List Bool) {rest : List Instruction} :
      (Control.running true found (inner ++ outer) rest).IsWithin outer σ :=
    Control.isWithin_running inner hσ
  rw [hcode]
  refine .enter rfl (hwithin []) ?_
  cases hvalue : operand.value found σ with
  | none =>
    refine .enter (by rw [Condition.holds, hvalue]; rfl) (hwithin [false]) ?_
    refine .plain rfl (hwithin [false, false]) fun _ => ?_
    have hundo : p.Initializes outer rest (.running true found ([false, false] ++ outer)
        (p.undoCode ++ .give false :: .close :: .close :: code)) σ :=
      initializes_undo (hnull hvalue)
    rwa [List.append_cons] at hundo
  | some handle =>
    refine .pass (by rw [Condition.holds, hvalue]; rfl) p.isBalanced_failure (hwithin [false]) ?_
    exact .close (hwithin [false]) (hnext (hvalue ▸ Option.some_ne_none handle))

/-- The lookups fill the slots that are not filled yet. The flag is set when none is left. -/
theorem initializes_lookups (hclazz : "sClazz" ∉ p.slots) {c : Handle} {todo : List Lookup}
    (hslots : ∀ id ∈ todo, id.slot ∈ p.slots) (h : σ.IsPartial p.pointers (some c) [])
    (hfilled : ∀ s ∈ p.slots, σ.pointers s ≠ none ∨ s ∈ todo.map Lookup.slot) :
    p.Initializes outer rest
      (.running true found outer (todo.flatMap p.lookupCode ++ .setFlag true :: rest)) σ := by
  induction todo generalizing σ with
  | nil =>
    refine .plain rfl (Control.isWithin_running [] h.initialized) fun _ => ?_
    refine .done (.inl ⟨found, rfl, rfl, fun s => ⟨h.pointers s, fun hs => ?_⟩, ?_, h.localRefs⟩)
    · rcases List.mem_cons.1 hs with rfl | hs
      · exact h.clazz ▸ Option.some_ne_none c
      · exact (hfilled s hs).resolve_right List.not_mem_nil
    · exact h.globalRefs.trans (congrArg Option.toList h.clazz.symm)
  | cons id todo ih =>
    have hid := hslots id List.mem_cons_self
    have hne : "sClazz" ≠ id.slot := fun heq => hclazz (heq ▸ hid)
    have htodo := fun id' hid' => hslots id' (List.mem_cons_of_mem id hid')
    rw [List.flatMap_cons, List.append_assoc, lookupCode, List.cons_append]
    refine .plain rfl (Control.isWithin_running [] h.initialized) fun answer => ?_
    have hanswer : (σ.set id.slot answer).IsPartial p.pointers (some c) [] :=
      h.set (List.mem_cons_of_mem _ hid) hne
    refine initializes_check hanswer.initialized (fun _ => hanswer) fun hvalue => ?_
    refine ih htodo hanswer fun s hs => ?_
    by_cases hs' : s = id.slot
    · exact .inl (hs' ▸ hvalue)
    · refine (hfilled s hs).imp (fun hfilled => ?_) fun hmem => List.mem_of_ne_of_mem hs' hmem
      exact (Memory.pointers_set_of_ne σ hs' answer).symm ▸ hfilled

/-- A call initialises a state that has been released. -/
theorem initializes_initCode (hclazz : "sClazz" ∉ p.slots) (h : σ.IsReleased) :
    p.Initializes outer rest (.running false none outer (p.initCode ++ rest)) σ := by
  have hcode : p.initCode ++ rest = .findClass :: (p.checkCode .clazz ++ .hold "sClazz"
      :: .deleteFound :: (p.checkCode (.member "sClazz")
        ++ (p.lookups.flatMap p.lookupCode ++ .setFlag true :: rest))) := by
    simp [initCode]
  rw [hcode]
  have hwithin {found : Option Handle} {rest : List Instruction} {σ : Memory}
      (hσ : σ.initialized = false) : (Control.running true found outer rest).IsWithin outer σ :=
    Control.isWithin_running [] hσ
  refine .plain rfl ⟨h.initialized, List.suffix_rfl, fun _ => rfl⟩ fun found => ?_
  have hfound : (Instruction.findClass.effect none found σ).IsPartial p.pointers none
    found.toList := h.isPartial.findClass
  have hnull : found = none →
      (Instruction.findClass.effect none found σ).IsPartial p.pointers none [] := by
    rintro rfl
    exact hfound
  refine initializes_check hfound.initialized hnull fun hvalue => ?_
  refine .plain rfl (hwithin hfound.initialized) fun held => ?_
  have hheld : ((Instruction.hold "sClazz").effect found held _).IsPartial p.pointers held
      found.toList := hfound.hold List.mem_cons_self
  refine .plain rfl (hwithin hheld.initialized) fun answer => ?_
  have hdropped : (Instruction.deleteFound.effect found answer _).IsPartial p.pointers held [] :=
    hheld.deleteFound
  refine initializes_check hdropped.initialized (fun _ => hdropped) fun hclass => ?_
  cases held with
  | none => exact absurd hdropped.clazz hclass
  | some c =>
    exact initializes_lookups hclazz (fun id hid => List.mem_map_of_mem hid) hdropped
      fun s hs => .inr hs

/-! ### Calls -/

/-- A call comes to a goal. -/
abbrev Reaches (goal : Control → Memory → Prop) : Control → Memory → Prop :=
  Leads (fun _ _ => True) goal

/-- The blocks around guarded code. -/
def guardScopes (p : Proxy) : List Bool := if p.config.threadSafe then [false, true] else [false]

/-- The ends of the blocks around guarded code. -/
def guardEnd (p : Proxy) : List Instruction :=
  if p.config.threadSafe then [.close, .close] else [.close]

section Guarded

variable {goal : Control → Memory → Prop} {isBusy value : Bool} {body : List Instruction}

theorem reaches_guardEnd (h : Reaches goal (.running isBusy found [] rest) σ) :
    Reaches goal (.running isBusy found p.guardScopes (p.guardEnd ++ rest)) σ := by
  rw [guardScopes, guardEnd]
  split
  · exact .close trivial (.close trivial h)
  · exact .close trivial h

/-- Guarded code is passed by if the flag has another value, and is executed in its blocks
otherwise. -/
theorem reaches_guardedCode (hbody : IsBalanced Instruction.bracket body)
    (hpass : σ.initialized ≠ value → Reaches goal (.running false none [] rest) σ)
    (hrun : σ.initialized = value →
      Reaches goal (.running false none p.guardScopes (body ++ (p.guardEnd ++ rest))) σ) :
    Reaches goal (.running false none [] (p.guardedCode value body ++ rest)) σ := by
  have hholds : (Condition.flagIs value).holds none σ = decide (σ.initialized = value) := rfl
  rw [guardScopes, guardEnd] at hrun
  rw [guardedCode]
  by_cases hσ : σ.initialized = value
  · rw [decide_eq_true hσ] at hholds
    have hrun := hrun hσ
    split_ifs at hrun ⊢ with hsafe
    · refine .enter hholds trivial (.lock trivial (.enter hholds trivial ?_))
      simpa using hrun
    · refine .enter hholds trivial ?_
      simpa using hrun
  · rw [decide_eq_false hσ] at hholds
    rw [List.cons_append, List.append_assoc]
    refine .pass hholds ?_ trivial (hpass hσ)
    split_ifs with hsafe
    · exact (hbody.block (x := .enter (.flagIs value)) (y := .close) rfl rfl .nil).cons rfl
    · exact hbody

end Guarded

/-- Initialisation succeeds or releases everything. -/
def InitAfter (p : Proxy) (result : Option Bool) (σ : Memory) : Prop :=
  result = some true ∧ σ.IsReady p.pointers ∨ result = some false ∧ σ.IsReleased

/-- What a call returns, and what is true of the memory then. -/
def Returns (after : Option Bool → Memory → Prop) (c : Control) (σ : Memory) : Prop :=
  ∃ result, c = .returned result ∧ after result σ

theorem reaches_leaving {after : Option Bool → Memory → Prop} {result : Option Bool}
    {scopes : List Bool} (h : after result σ) :
    Reaches (Returns after) (.leaving result scopes) σ :=
  .leaving (fun _ => trivial) (.done ⟨result, rfl, h⟩)

theorem reaches_init (hclazz : "sClazz" ∉ p.slots) (h : σ.IsSettled p.pointers) :
    Reaches (Returns p.InitAfter) (p.program.start .init) σ := by
  have hend {found : Option Handle} {σ : Memory} (hσ : σ.IsReady p.pointers) :
      Reaches (Returns p.InitAfter) (.running false found [] [.skip, .give true]) σ :=
    .plain rfl trivial fun _ => .give trivial (reaches_leaving (.inl ⟨rfl, hσ⟩))
  refine .plain rfl trivial fun _ => ?_
  refine reaches_guardedCode p.isBalanced_initCode (fun hσ => ?_) fun hσ => ?_
  · exact hend (h.resolve_left fun hreleased => hσ hreleased.initialized)
  · have hreleased : σ.IsReleased :=
      h.resolve_right fun hready => Bool.false_ne_true (hσ.symm.trans hready.initialized)
    refine ((initializes_initCode hclazz hreleased).mono fun _ _ _ => trivial).trans ?_
    rintro c σ (⟨found, rfl, hready⟩ | ⟨inner, rfl, hreleased⟩)
    · exact reaches_guardEnd (hend hready)
    · exact reaches_leaving (.inr ⟨rfl, hreleased⟩)

theorem reaches_release (h : σ.IsSettled p.pointers) :
    Reaches (Returns fun result σ => result = none ∧ σ.IsReleased)
      (p.program.start .release) σ := by
  have hend {found : Option Handle} {σ : Memory} (hσ : σ.IsReleased) :
      Reaches (Returns fun result σ => result = none ∧ σ.IsReleased)
        (.running false found [] []) σ :=
    .step trivial fun _ => reaches_leaving ⟨rfl, hσ⟩
  refine .plain rfl trivial fun _ => ?_
  change Reaches _ (.running false none [] (p.guardedCode true p.releaseCode)) σ
  rw [← List.append_nil (p.guardedCode true p.releaseCode)]
  refine reaches_guardedCode p.isBalanced_releaseCode (fun hσ => ?_) fun hσ => ?_
  · exact hend (h.resolve_right fun hready => hσ hready.initialized)
  · have hready : σ.IsReady p.pointers :=
      h.resolve_left fun hreleased => Bool.false_ne_true (hreleased.initialized.symm.trans hσ)
    have hcode : p.releaseCode ++ (p.guardEnd ++ []) = .deleteHeld "sClazz"
        :: (p.pointers.map .clear ++ .setFlag false :: (p.guardEnd ++ [])) := by
      simp [releaseCode, pointers]
    rw [hcode]
    refine .plain rfl trivial fun answer => leads_clear (fun _ _ _ => trivial) (fun σ hσ => ?_)
      (Memory.isDropped_deleteHeld none answer hσ
        (fun s => (hready.pointers s).1) hready.globalRefs hready.localRefs)
    refine .plain rfl trivial fun _ => reaches_guardEnd (hend ?_)
    exact Memory.IsDropped.isReleased { hσ with flag := rfl }

/-! ### Sequences of calls -/

/-- What is true after a call: the state is settled, initialisation returns whether it leaves an
initialised state behind, and release leaves a released one behind. -/
structure AfterCall (p : Proxy) (entry : Entry) (result : Option Bool) (σ : Memory) : Prop where
  settled : σ.IsReleased ∨ σ.IsReady p.pointers
  init : entry = .init →
    (result = some true ∨ result = some false) ∧ (result = some true ↔ σ.IsReady p.pointers)
  release : entry = .release → σ.IsReleased
  localRefs : σ.localRefs = []

theorem afterCall_call (hclazz : "sClazz" ∉ p.slots) (hσ : σ.IsSettled p.pointers) (c : Call) :
    p.AfterCall c.entry (p.program.call c σ).1 (p.program.call c σ).2 := by
  obtain ⟨entry, answers⟩ := c
  cases entry with
  | init =>
    have hafter := finish_of_leads (reaches_init hclazz hσ) answers
    rcases hafter with ⟨hresult, hready⟩ | ⟨hresult, hreleased⟩
    · exact ⟨.inr hready, fun _ => ⟨.inl hresult, iff_of_true hresult hready⟩, nofun,
        hready.localRefs⟩
    · refine ⟨.inl hreleased, fun _ => ⟨.inr hresult, iff_of_false ?_ hreleased.not_isReady⟩, nofun,
        hreleased.localRefs⟩
      intro htrue
      cases hresult.symm.trans htrue
  | release =>
    have hreleased := (finish_of_leads (reaches_release hσ) answers).2
    exact ⟨.inl hreleased, nofun, fun _ => hreleased, hreleased.localRefs⟩

theorem isSettled_memoryAfter (hclazz : "sClazz" ∉ p.slots) (calls : List Call) :
    (p.program.memoryAfter calls).IsSettled p.pointers := by
  have hrun {σ : Memory} (hσ : σ.IsSettled p.pointers) :
      (calls.foldl (fun σ c => (p.program.call c σ).2) σ).IsSettled p.pointers := by
    induction calls generalizing σ with
    | nil => exact hσ
    | cons c calls ih => exact ih (afterCall_call hclazz hσ c).settled
  exact hrun (.inl Memory.isReleased_initial)

theorem filterMap_pointerName?_stateMembers (p : Proxy) :
    p.stateMembers.filterMap StateMember.pointerName? = p.pointers := by
  have hlookups : (p.lookups.map fun id => StateMember.pointer id.kind.typeName id.slot).filterMap
      StateMember.pointerName? = p.slots := by
    rw [List.filterMap_map, slots, ← List.filterMap_eq_map]
    rfl
  rw [stateMembers, List.filterMap_append, hlookups, List.filterMap_append]
  split <;> rfl

/-- The files of a proxy define the program of its two functions, and the state that they work on,
with one pointer for the class and one for each slot. After every call of a sequence, be they of
initialisation or of release and whatever the virtual machine answers, the state is either as in the
beginning or completely initialised. Initialisation returns true if and only if it leaves the latter
behind, release always leaves the former behind, and no call leaves a local reference behind. A slot
called like the pointer for the class, which no proxy made from a class has
(`clazz_notMem_slots_of_ofModel`), would be filled in its place. -/
theorem call_memoryAfter (hclazz : "sClazz" ∉ p.slots) :
    (p.IsReadable → p.Emits p.program p.stateMembers)
      ∧ p.stateMembers.filterMap StateMember.pointerName? = p.pointers
      ∧ ∀ (calls : List Call) (c : Call), ∃ result σ,
        p.program.call c (p.program.memoryAfter calls) = (result, σ)
          ∧ p.AfterCall c.entry result σ :=
  ⟨emits, p.filterMap_pointerName?_stateMembers, fun calls c =>
    ⟨_, _, rfl, afterCall_call hclazz (isSettled_memoryAfter hclazz calls) c⟩⟩

/-- The proxy of a class with a constructor, a field and overloaded methods, whose checks report to
a function in a namespace. -/
theorem call_memoryAfter_countedClass : ∃ names p,
    ClassNames.ofModel countedClass = .ok names
      ∧ ofModel { errorLogger := some "log::report" } names countedClass = .ok p
      ∧ p.slots = ["sConstruct_0", "sMethod_f_0", "sMethod_f_1_0", "sMethod_f_1", "sField_f_0"]
      ∧ p.slots.Nodup ∧ "sClazz" ∉ p.slots ∧ p.Emits p.program p.stateMembers
      ∧ ∀ (calls : List Call) (c : Call), ∃ result σ,
        p.program.call c (p.program.memoryAfter calls) = (result, σ)
          ∧ p.AfterCall c.entry result σ := by
  have hlookups : (do
      let names ← ClassNames.ofModel countedClass
      let p ← ofModel { errorLogger := some "log::report" } names countedClass
      pure p.lookups) = .ok
        [⟨"sConstruct_0", .method, false, "<init>", "()V"⟩,
          ⟨"sMethod_f_0", .method, false, "f", "()V"⟩,
          ⟨"sMethod_f_1_0", .method, false, "f_1", "()V"⟩,
          ⟨"sMethod_f_1", .method, false, "f", "(I)V"⟩,
          ⟨"sField_f_0", .field, false, "f", "I"⟩] := by decide +kernel
  obtain ⟨names, hnames, h⟩ := bind_eq_ok_iff.1 hlookups
  obtain ⟨p, hp, h⟩ := bind_eq_ok_iff.1 h
  have hids := Except.ok.inj h
  have hslots : p.slots
      = ["sConstruct_0", "sMethod_f_0", "sMethod_f_1_0", "sMethod_f_1", "sField_f_0"] := by
    rw [slots, hids]
    rfl
  have hnodup : p.slots.Nodup := by
    rw [hslots]
    decide +kernel
  have hclazz : "sClazz" ∉ p.slots := clazz_notMem_slots_of_ofModel hp
  have hdescriptors : ∀ id ∈ p.lookups, Cpp.IsEnclosed id.descriptorLiteral.toList := by
    have hordinary : p.lookups.all fun id => id.descriptorLiteral.toList.all Cpp.isOrdinary := by
      rw [hids]
      decide +kernel
    exact fun id hid => Cpp.isEnclosed_of_all (List.all_eq_true.1 hordinary id hid)
  have hlogger : ∀ logger ∈ p.config.errorLogger, IsFunctionName logger := by
    obtain ⟨_, _, hmade⟩ := isMadeFrom_of_ofModel hp
    rw [hmade.config]
    rintro _ ⟨⟩
    exact ⟨["log", "report"], by decide, by decide +kernel, by decide +kernel⟩
  obtain ⟨hemits, -, hcalls⟩ := call_memoryAfter hclazz
  exact ⟨names, p, hnames, hp, hslots, hnodup, hclazz,
    hemits (isReadable_of_ofModel hnames hp hdescriptors hlogger), hcalls⟩

end Proxy

end JniBindings
