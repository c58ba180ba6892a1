import JniBindings.Proofs.Initialization.Execution
/-!
# Where calls lead

`Leads` says that a call comes to a goal whatever the virtual machine answers, and what is true on
the way. It is an induction on the steps that are left, so a call that leads somewhere gets there
(`finish_of_leads`), and calls are put together piece by piece (`Leads.trans`).
-/

namespace JniBindings

/-- Whatever the answers are, a call comes to the goal, and on the way there something is true. -/
inductive Leads (during goal : Control → Memory → Prop) : Control → Memory → Prop
  | done {c : Control} {σ : Memory} (h : goal c σ) : Leads during goal c σ
  | step {c : Control} {σ : Memory} (hduring : during c σ)
    (h : ∀ answer, Leads during goal (c.next answer σ).1 (c.next answer σ).2) :
    Leads during goal c σ

namespace Leads

variable {during goal : Control → Memory → Prop} {c : Control} {σ : Memory}

theorem trans {goal' : Control → Memory → Prop} (h : Leads during goal c σ)
    (hgoal : ∀ c σ, goal c σ → Leads during goal' c σ) : Leads during goal' c σ := by
  induction h with
  | done h => exact hgoal _ _ h
  | step hduring _ ih => exact .step hduring ih

theorem mono {during' : Control → Memory → Prop} (h : Leads during goal c σ)
    (hduring : ∀ c σ, during c σ → during' c σ) : Leads during' goal c σ := by
  induction h with
  | done h => exact .done h
  | step h _ ih => exact .step (hduring _ _ h) ih

/-! ### One step -/

section Step

variable {isBusy : Bool} {found : Option Handle} {scopes : List Bool} {rest : List Instruction}

/-- An instruction that has nothing to do with blocks. -/
theorem plain {i : Instruction} (hi : i.isPlain)
    (hduring : during (.running isBusy found scopes (i :: rest)) σ)
    (h : ∀ answer, Leads during goal
      (.running (i.busyAfter isBusy) (i.foundAfter found answer) scopes rest)
      (i.effect found answer σ)) :
    Leads during goal (.running isBusy found scopes (i :: rest)) σ := by
  refine .step hduring fun answer => ?_
  rw [Control.next_of_isPlain hi]
  exact h answer

/-- A block is entered. -/
theorem enter {condition : Condition} (hholds : condition.holds found σ = true)
    (hduring : during (.running isBusy found scopes (.enter condition :: rest)) σ)
    (h : Leads during goal (.running isBusy found (false :: scopes) rest) σ) :
    Leads during goal (.running isBusy found scopes (.enter condition :: rest)) σ := by
  refine .step hduring fun answer => ?_
  rw [Control.next_enter_of_holds hholds]
  exact h

/-- A block is left out. -/
theorem pass {condition : Condition} {body behind : List Instruction}
    (hholds : condition.holds found σ = false) (hbody : IsBalanced Instruction.bracket body)
    (hduring : during
      (.running isBusy found scopes (.enter condition :: (body ++ .close :: behind))) σ)
    (h : Leads during goal (.running isBusy found scopes behind) σ) :
    Leads during goal
      (.running isBusy found scopes (.enter condition :: (body ++ .close :: behind))) σ := by
  refine .step hduring fun answer => ?_
  rw [Control.next_enter_of_not_holds hholds, hbody.behindBlock_append (y := Instruction.close) rfl]
  exact h

theorem close {scope : Bool}
    (hduring : during (.running isBusy found (scope :: scopes) (.close :: rest)) σ)
    (h : Leads during goal (.running isBusy found scopes rest) σ) :
    Leads during goal (.running isBusy found (scope :: scopes) (.close :: rest)) σ :=
  .step hduring fun _ => h

theorem lock {scope : Bool}
    (hduring : during (.running isBusy found (scope :: scopes) (.lock :: rest)) σ)
    (h : Leads during goal (.running isBusy found (true :: scopes) rest) σ) :
    Leads during goal (.running isBusy found (scope :: scopes) (.lock :: rest)) σ :=
  .step hduring fun _ => h

theorem give {value : Bool}
    (hduring : during (.running isBusy found scopes (.give value :: rest)) σ)
    (h : Leads during goal (.leaving (some value) scopes) σ) :
    Leads during goal (.running isBusy found scopes (.give value :: rest)) σ :=
  .step hduring fun _ => h

end Step

/-- On the way out of its blocks a call does nothing else. -/
theorem leaving {result : Option Bool} {scopes : List Bool}
    (hduring : ∀ scopes, during (.leaving result scopes) σ)
    (h : Leads during goal (.returned result) σ) :
    Leads during goal (.leaving result scopes) σ := by
  induction scopes with
  | nil => exact .step (hduring []) fun _ => h
  | cons scope scopes ih => exact .step (hduring (scope :: scopes)) fun _ => ih

end Leads

/-- A call that leads to a return, returns. -/
theorem finish_of_leads {during : Control → Memory → Prop} {after : Option Bool → Memory → Prop}
    {c : Control} {σ : Memory}
    (h : Leads during (fun c σ => ∃ result, c = .returned result ∧ after result σ) c σ)
    (answers : Nat → Option Handle) :
    after (c.finish answers σ).1 (c.finish answers σ).2 := by
  induction h generalizing answers with
  | done h =>
    obtain ⟨result, rfl, hafter⟩ := h
    rw [Control.finish]
    exact hafter
  | @step c σ _ _ ih =>
    cases hresult : c.result? with
    | none =>
      rw [Control.finish]
      split
      · next heq => rw [hresult] at heq; cases heq
      · exact ih _ _
    | some result =>
      cases c with
      | returned result => exact ih none answers
      | _ => cases hresult

end JniBindings
