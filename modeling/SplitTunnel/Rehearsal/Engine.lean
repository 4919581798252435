import SplitTunnel.Controller

/-!
# An engine by a script (`SPEC_FULL.md` §10.4, the scripted fake engine)

An engine that does what it was told beforehand: it fails to come up a number of times, and
requests are made while one of its calls runs.

* `Stand`: the control loop together with such an engine.
* `Stand.settle`: the loop has done all that it can do without waiting for a request.
-/

namespace SplitTunnel.Rehearsal

/-- What an engine has been told. -/
structure Engine where
  /-- How many times the engine still fails to come up. -/
  failures : Nat := 0
  /-- The requests that are made during the next call of a kind. -/
  interruption : Option (EngineEvent × List Target) := none
  /-- The engine forgets what it was given when it is taken down. -/
  forgets : Bool := false
  /-- The engine has been given what it calls back with. -/
  acquainted : Bool := false
deriving DecidableEq, Repr, Inhabited

namespace Engine

/-- `e` comes up the next time. -/
def comesUp (e : Engine) : Bool := e.failures == 0

/-- `e` at the end of the call in which the loop waits in `s`. -/
def leave (e : Engine) (s : Stage) : Engine :=
  match s with
  | .inBringUp _ =>
    if e.comesUp then { e with acquainted := true } else { e with failures := e.failures - 1 }
  | _ => e

/-- `e` at the start of the call in which the loop waits in `s`. -/
def enter (e : Engine) (s : Stage) : Engine :=
  match s with
  | .inTakeDown _ => { e with acquainted := e.acquainted && !e.forgets }
  | _ => e

end Engine

/-- The control loop together with its engine. -/
structure Stand where
  controller : Controller
  engine : Engine := {}
deriving DecidableEq, Repr, Inhabited

namespace Stand

/-- Asks for `targets` one after another; requests that are refused are lost. -/
def requestAll (c : Controller) (targets : List Target) : Controller :=
  targets.foldl (fun c target => (c.request? target).getD c) c

/-- Makes the requests for the call that has just begun. -/
def interrupt (s : Stand) : Stand :=
  match s.engine.interruption with
  | none => s
  | some (event, targets) =>
    if s.controller.stage.inCall? = some event then
      ⟨requestAll s.controller targets, { s.engine with interruption := none }⟩
    else s

/-- The loop's next step, with all that the engine does in it. -/
def advance? (p : Platform) (s : Stand) : Option Stand :=
  (s.controller.advance? p s.engine.comesUp).map fun c =>
    interrupt ⟨c, (s.engine.leave s.controller.stage).enter c.stage⟩

/-- A bound for the steps that `s` can do without waiting. -/
def work (s : Stand) : Nat :=
  (if s.engine.interruption.isSome then 64 else 0) + s.controller.work

theorem work_requestAll_le (c : Controller) (targets : List Target) :
    (requestAll c targets).work ≤ c.work + 32 ∧ (requestAll c targets).stage = c.stage := by
  have h : ∀ l : List Target, (requestAll c l).stage = c.stage := by
    intro l
    induction l generalizing c with
    | nil => rfl
    | cons t rest ih =>
      rw [requestAll, List.foldl_cons, ← requestAll, ih]
      unfold Controller.request?
      split <;> rfl
  refine ⟨?_, h targets⟩
  have hs := h targets
  unfold Controller.work
  rw [hs]
  split <;> split <;> omega

theorem interruption_leave (e : Engine) (s : Stage) :
    (e.leave s).interruption = e.interruption := by
  unfold Engine.leave
  split
  · split <;> rfl
  · rfl

theorem interruption_enter (e : Engine) (s : Stage) :
    (e.enter s).interruption = e.interruption := by
  unfold Engine.enter
  split <;> rfl

theorem work_interrupt_le (s : Stand) : s.interrupt.work ≤ s.work := by
  unfold interrupt
  split
  · exact Nat.le_refl _
  · next event targets h =>
    split
    · have := (work_requestAll_le s.controller targets).1
      simp only [work, h, Option.isSome_none, Option.isSome_some, Bool.false_eq_true, if_false,
        if_true]
      omega
    · exact Nat.le_refl _

theorem work_advance? {p : Platform} {s s' : Stand} (h : s.advance? p = some s') :
    s'.work < s.work := by
  obtain ⟨c, hc, rfl⟩ := Option.map_eq_some_iff.mp h
  have h₁ := (Controller.work_advance? hc).1
  have h₂ := work_interrupt_le ⟨c, (s.engine.leave s.controller.stage).enter c.stage⟩
  unfold work at h₂ ⊢
  simp only [interruption_enter, interruption_leave] at h₂
  omega

/-- `s` when the loop has done all that it can do without waiting. -/
def settle (p : Platform) (s : Stand) : Stand :=
  match _ : s.advance? p with
  | none => s
  | some s' => settle p s'
termination_by s.work
decreasing_by exact work_advance? (by assumption)

end Stand

end SplitTunnel.Rehearsal
