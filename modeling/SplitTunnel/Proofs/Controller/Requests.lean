import SplitTunnel.Proofs.Controller.Switch

/-!
# What becomes of a request (`SPEC_FULL.md` §4.5, last write wins, and §5)

The users have handles of the loop. They can copy a handle, drop one, and make a request with one.
A request is refused once the loop has ended, and otherwise waits in the slot.

* `Crowd`, `Crowd.turn?`, `Crowd.run?`: the loop with the number of its handles, and what happens.
* `Crowd.granted?`, `Crowd.accepted`: the requests that are not refused.
* `Crowd.PickedUp`, `Crowd.Superseded`: what may become of an accepted request.
* `Crowd.Waiting`: a request is in the slot, and the loop will look at it.
* `Crowd.served_iff_of_stopped`: when the loop has ended, an accepted request has been picked up or
  superseded, unless the loop was ending when it came. Such a request is never picked up.
-/

namespace SplitTunnel

/-! ## The slot -/

namespace Controller

/-- The move is done with a handle. -/
def Move.isUsers : Move → Bool
  | .act (.request _) | .act .dropHandles => true
  | _ => false

variable {p : Platform} {c c' : Controller} {m : Move}

/-- Only where it waits does `advance?` look at the slot. -/
theorem slot_advance? {up : Bool} (hs : c.stage ≠ .ready) (ha : c.advance? p up = some c') :
    c'.slot = c.slot := by
  unfold advance? at ha
  split at ha
  case h_1 | h_2 => cases ha
  case h_3 hready => exact absurd hready hs
  case h_6 next _ =>
    split at ha <;> cases ha
    · rfl
    · cases next <;> rfl
  case h_13 | h_15 | h_16 => split at ha <;> cases ha <;> rfl
  all_goals
    cases ha
    rfl

/-- Nothing but a request and a look at the slot changes it. -/
theorem slot_move? (hm : c.move? p m = some c') (hr : ∀ target, m ≠ .act (.request target))
    (ht : c.taken? m = none) : c'.slot = c.slot := by
  cases moved_of_move? hm with
  | start hs => rfl
  | request target => exact absurd rfl (hr target)
  | dropHandles => rfl
  | callback b => cases b <;> rfl
  | descriptor i a host => rfl
  | advance up c' ha =>
    refine slot_advance? (fun hs => ?_) ha
    unfold advance? at ha
    rw [hs] at ha
    obtain ⟨target, htarget, -⟩ := look?_eq_some hs ha
    rw [taken?, htarget] at ht
    cases ht

/-- Only the users know when the last handle goes away. -/
theorem handles_move? (hm : c.move? p m = some c') (hu : m.isUsers = false) :
    c'.handles = c.handles := by
  cases moved_of_move? hm with
  | start hs => rfl
  | request target => cases hu
  | dropHandles => cases hu
  | callback b => cases b <;> rfl
  | descriptor i a host => rfl
  | advance up c' ha => exact (work_advance? ha).2

end Controller

/-! ## Handles -/

/-- The loop with the number of its handles. -/
structure Crowd where
  controller : Controller
  handles : Nat := 1

namespace Crowd

open Controller (Move plainProfile)

/-- Something that happens to a `Crowd`. -/
inductive Turn where
  | copy
  | drop
  | send (target : Target)
  /-- Anything that is not done with a handle. -/
  | move (m : Move)
deriving DecidableEq, Repr

/-- A loop that has not been started and its first handle. -/
def create (config : ServiceConfig) (supported : Capabilities) : Crowd where
  controller := .create config supported

/-- `x` after a turn, if it can happen. A request that is refused changes nothing. -/
def turn? (p : Platform) (x : Crowd) : Turn → Option Crowd
  | .copy => if x.handles = 0 then none else some { x with handles := x.handles + 1 }
  | .drop =>
    match x.handles with
    | 0 => none
    | 1 => some ⟨x.controller.dropHandles, 0⟩
    | n + 2 => some { x with handles := n + 1 }
  | .send target =>
    if x.handles = 0 then none
    else some { x with controller := (x.controller.request? target).getD x.controller }
  | .move m =>
    if m.isUsers then none
    else (x.controller.move? p m).map fun controller => { x with controller }

/-- `x` after turns in order, if they can happen. -/
def run? (p : Platform) (x : Crowd) : List Turn → Option Crowd
  | [] => some x
  | t :: rest => (x.turn? p t).bind fun y => y.run? p rest

/-- The request that is accepted in a turn. -/
def granted? (x : Crowd) : Turn → Option Target
  | .send target => (x.controller.request? target).map fun _ => target
  | _ => none

/-- What the loop picks up in a turn. -/
def taken? (x : Crowd) : Turn → Option Target
  | .move m => x.controller.taken? m
  | _ => none

/-- The requests that are accepted in a run, in order. -/
def accepted (p : Platform) (x : Crowd) : List Turn → List Target
  | [] => []
  | t :: rest => (x.granted? t).toList ++ ((x.turn? p t).map fun y => y.accepted p rest).getD []

/-- What the loop picks up in a run, in order. -/
def picked (p : Platform) (x : Crowd) : List Turn → List Target
  | [] => []
  | t :: rest => (x.taken? t).toList ++ ((x.turn? p t).map fun y => y.picked p rest).getD []

/-- In the run `later`, `target` is what the loop picks up first, before another request is
accepted. -/
def PickedUp (p : Platform) (x : Crowd) (target : Target) (later : List Turn) : Prop :=
  ∃ before after, later = before ++ after ∧ x.accepted p before = [] ∧
    x.picked p before = [target]

/-- In the run `later` another request is accepted. -/
def Superseded (p : Platform) (x : Crowd) (later : List Turn) : Prop := x.accepted p later ≠ []

variable {p : Platform} {x x' y : Crowd} {t : Turn} {turns later rest : List Turn}
  {target : Target}

theorem run?_cons : x.run? p (t :: rest) = some y ↔
    ∃ x', x.turn? p t = some x' ∧ x'.run? p rest = some y := Option.bind_eq_some_iff

theorem accepted_cons (h : x.turn? p t = some y) (rest : List Turn) :
    x.accepted p (t :: rest) = (x.granted? t).toList ++ y.accepted p rest := by
  rw [accepted, h]
  rfl

theorem picked_cons (h : x.turn? p t = some y) (rest : List Turn) :
    x.picked p (t :: rest) = (x.taken? t).toList ++ y.picked p rest := by
  rw [picked, h]
  rfl

/-! ## What a turn does -/

/-- A turn `t` leaves the loop alone, puts a request into the slot, or is a move of something else.
-/
theorem turn?_cases (h : x.turn? p t = some y) :
    (x.granted? t = none ∧ x.taken? t = none ∧ y.controller = x.controller) ∨
    (∃ target, x.granted? t = some target ∧ x.taken? t = none ∧
      y.controller = { x.controller with slot := x.controller.slot.send target }) ∨
    ∃ m, x.granted? t = none ∧ x.taken? t = x.controller.taken? m ∧
      (∀ target, m ≠ .act (.request target)) ∧ x.controller.move? p m = some y.controller := by
  cases t with
  | copy =>
    rw [turn?] at h
    split at h <;> cases h
    exact .inl ⟨rfl, rfl, rfl⟩
  | drop =>
    rw [turn?] at h
    split at h <;> cases h
    · exact .inr (.inr ⟨.act .dropHandles, rfl, rfl, fun _ => nofun, rfl⟩)
    · exact .inl ⟨rfl, rfl, rfl⟩
  | send target =>
    rw [turn?] at h
    split at h <;> cases h
    cases hr : x.controller.request? target with
    | none => exact .inl ⟨by rw [granted?, hr]; rfl, rfl, rfl⟩
    | some c =>
      refine .inr (.inl ⟨target, by rw [granted?, hr]; rfl, rfl, ?_⟩)
      unfold Controller.request? at hr
      split at hr <;> cases hr
      rfl
  | move m =>
    rw [turn?] at h
    split at h
    · cases h
    · next hm =>
      obtain ⟨c, hc, rfl⟩ := Option.map_eq_some_iff.mp h
      refine .inr (.inr ⟨m, rfl, rfl, ?_, hc⟩)
      rintro target rfl
      exact hm rfl

/-- A request for `target` that is accepted is in the slot then. -/
theorem controller_of_granted (h : x.turn? p t = some y) (hgranted : x.granted? t = some target) :
    y.controller = { x.controller with slot := x.controller.slot.send target } := by
  rcases turn?_cases h with ⟨hnone, -⟩ | ⟨target', hsome, -, hc⟩ | ⟨m, hnone, -⟩
  · rw [hgranted] at hnone
    cases hnone
  · rw [hgranted] at hsome
    cases hsome
    exact hc
  · rw [hgranted] at hnone
    cases hnone

/-- The loop knows whether there are handles. -/
def Counted (x : Crowd) : Prop := x.controller.handles = (x.handles != 0)

theorem Counted.turn? (h : x.Counted) (ht : x.turn? p t = some y) : y.Counted := by
  cases t with
  | copy =>
    rw [Crowd.turn?] at ht
    split at ht <;> cases ht
    next hn => exact h.trans (bne_iff_ne.mpr hn)
  | drop =>
    rw [Crowd.turn?] at ht
    split at ht <;> cases ht
    · rfl
    · next n hn =>
      rw [Counted, hn] at h
      exact h
  | send target =>
    rw [Crowd.turn?] at ht
    split at ht <;> cases ht
    unfold Controller.request?
    split <;> exact h
  | move m =>
    rw [Crowd.turn?] at ht
    split at ht
    · cases ht
    · next hu =>
      obtain ⟨c, hc, rfl⟩ := Option.map_eq_some_iff.mp ht
      exact (Controller.handles_move? hc (Bool.not_eq_true _ ▸ hu)).trans h

theorem Counted.run? (h : x.Counted) (hy : x.run? p turns = some y) : y.Counted := by
  induction turns generalizing x with
  | nil =>
    cases hy
    exact h
  | cons t rest ih =>
    obtain ⟨x', ht, hrest⟩ := run?_cons.mp hy
    exact ih (h.turn? ht) hrest

/-- Of a loop that is `Counted` a request is refused exactly when it has ended. -/
theorem Counted.granted?_eq_none_iff (h : x.Counted) (hn : x.handles ≠ 0) (target : Target) :
    x.granted? (.send target) = none ↔ x.controller.stage = .stopped := by
  have hhandles : x.controller.handles = true := h.trans (bne_iff_ne.mpr hn)
  rw [granted?, Option.map_eq_none_iff, Controller.request?, hhandles, Controller.isOpen]
  by_cases hs : x.controller.stage = .stopped
  · simp [hs]
  · simp [hs]

/-- `target` is in the slot, and the loop will look at it. -/
structure Waiting (x : Crowd) (target : Target) : Prop where
  slot : x.controller.slot = ⟨target, true⟩
  goesOn : x.controller.stage.isEnding = false

/-- In a turn `t` the request for `target` goes on waiting, unless another one is accepted or this
one is picked up. -/
theorem Waiting.turn? (h : x.Waiting target) (ht : x.turn? p t = some y)
    (hgranted : x.granted? t = none) :
    x.taken? t = some target ∨ (x.taken? t = none ∧ y.Waiting target) := by
  rcases turn?_cases ht with ⟨-, htaken, hc⟩ | ⟨target', hsome, -, -⟩ | ⟨m, -, htaken, hr, hm⟩
  · exact .inr ⟨htaken, hc ▸ h.slot, hc ▸ h.goesOn⟩
  · rw [hgranted] at hsome
    cases hsome
  · cases htarget : x.controller.taken? m with
    | none =>
      refine .inr ⟨htaken.trans htarget, ?_, ?_⟩
      · rw [Controller.slot_move? hm hr htarget, h.slot]
      · rw [Controller.isEnding_move? hm, h.goesOn, htarget]
        rfl
    | some target' =>
      obtain ⟨hs, up, rfl, hpending⟩ := Controller.ready_of_taken? htarget
      rw [Controller.pending?, if_pos hs, h.slot] at hpending
      cases hpending
      exact .inl (htaken.trans htarget)

/-- In a run `later` a request that waits is picked up or superseded, or goes on waiting. -/
theorem Waiting.run? (h : x.Waiting target) (hy : x.run? p later = some y) :
    x.PickedUp p target later ∨ x.Superseded p later ∨ y.Waiting target := by
  -- By induction on the turns: the first one settles it, or the request goes on waiting.
  induction later generalizing x with
  | nil =>
    cases hy
    exact .inr (.inr h)
  | cons t rest ih =>
    obtain ⟨x', ht, hrest⟩ := run?_cons.mp hy
    cases hgranted : x.granted? t with
    | some target' =>
      refine .inr (.inl ?_)
      rw [Superseded, accepted_cons ht, hgranted]
      exact List.cons_ne_nil _ _
    | none =>
      rcases h.turn? ht hgranted with htaken | ⟨htaken, hwaiting⟩
      · refine .inl ⟨[t], rest, rfl, ?_, ?_⟩
        · rw [accepted_cons ht, hgranted]
          rfl
        · rw [picked_cons ht, htaken]
          rfl
      · rcases ih hwaiting hrest with ⟨before, after, rfl, hbefore, hpicked⟩ | hsuper | hwait
        · refine .inl ⟨t :: before, after, rfl, ?_, ?_⟩
          · rw [accepted_cons ht, hgranted, hbefore]
            rfl
          · rw [picked_cons ht, htaken, hpicked]
            rfl
        · refine .inr (.inl ?_)
          rw [Superseded, accepted_cons ht, hgranted]
          exact hsuper
        · exact .inr (.inr hwait)

/-- In a run `later` of a loop that is ending nothing is picked up. -/
theorem picked_of_isEnding (h : x.controller.stage.isEnding = true) (later : List Turn) :
    x.picked p later = [] := by
  induction later generalizing x with
  | nil => rfl
  | cons t rest ih =>
    cases ht : x.turn? p t with
    | none =>
      rw [picked, ht]
      cases t with
      | move m => simp [taken?, Controller.taken?_of_isEnding h]
      | copy | drop | send => rfl
    | some y =>
      rw [picked_cons ht]
      rcases turn?_cases ht with
        ⟨-, htaken, hc⟩ | ⟨target', -, htaken, hc⟩ | ⟨m, -, htaken, -, hm⟩
      · rw [htaken, ih (hc ▸ h)]
        rfl
      · have hending : y.controller.stage.isEnding = true := by rw [hc, h]
        rw [htaken, ih hending]
        rfl
      · have hnone := Controller.taken?_of_isEnding h m
        have hending := Controller.isEnding_move? hm
        rw [h, Bool.true_or] at hending
        rw [htaken, hnone, ih hending]
        rfl

theorem not_pickedUp_of_isEnding (h : x.controller.stage.isEnding = true) (target : Target)
    (later : List Turn) : ¬ x.PickedUp p target later := by
  rintro ⟨before, after, -, -, hpicked⟩
  rw [picked_of_isEnding h] at hpicked
  cases hpicked

/-- A request for `target` is refused exactly when the loop of `x` is `stopped`. When the loop stops
later, an accepted one has been `PickedUp` or `Superseded`, unless the loop was already ending when
it came: such a request is never picked up, so it is lost if no other one is accepted after it. -/
theorem served_iff_of_stopped {config : ServiceConfig} {supported : Capabilities}
    {past later : List Turn} (hx : (create config supported).run? p past = some x)
    (hsend : x.turn? p (.send target) = some x') (hy : x'.run? p later = some y)
    (hstopped : y.controller.stage = .stopped) :
    (x.granted? (.send target) = none ↔ x.controller.stage = .stopped) ∧
    (x.granted? (.send target) = some target →
      ((x'.PickedUp p target later ∨ x'.Superseded p later) ↔
        (x.controller.stage.isEnding = true → x'.Superseded p later))) := by
  have hcounted : x.Counted := Counted.run? (show (create config supported).Counted from rfl) hx
  have hn : x.handles ≠ 0 := by
    intro hn
    rw [turn?, if_pos hn] at hsend
    cases hsend
  refine ⟨hcounted.granted?_eq_none_iff hn target, fun hgranted => ?_⟩
  have hc := controller_of_granted hsend hgranted
  have hstage : x'.controller.stage = x.controller.stage := by rw [hc]
  cases hending : x.controller.stage.isEnding with
  | true =>
    -- A loop that is ending looks at the slot no more, so the request can only be superseded.
    have hlost : ¬ x'.PickedUp p target later :=
      not_pickedUp_of_isEnding (by rw [hstage, hending]) target later
    exact ⟨fun h _ => h.resolve_left hlost, fun h => .inr (h rfl)⟩
  | false =>
    have hwaiting : x'.Waiting target := ⟨by rw [hc]; rfl, by rw [hstage, hending]⟩
    refine ⟨fun _ => nofun, fun _ => ?_⟩
    rcases hwaiting.run? hy with hpicked | hsuper | hwait
    · exact .inl hpicked
    · exact .inr hsuper
    -- A loop that goes on has not stopped.
    · have hgoes := hwait.goesOn
      rw [hstopped] at hgoes
      cases hgoes

/-- The loop does its next step, and the engine comes up if it is being brought up. -/
def Turn.next : Turn := .move .next

/-- The loop is started, and the handle is copied. -/
def untilReady : List Turn := [.move .start, .copy]

/-- A connection is made, both handles go away, and the loop ends. -/
def untilHandlesGone : List Turn :=
  List.replicate 10 .next ++ [.drop, .drop] ++ List.replicate 7 .next

/-- A request that the loop waits for is picked up in `untilHandlesGone`, since no other one comes.
-/
theorem pickedUp_untilHandlesGone :
    ∃ x x' y : Crowd, (create {} {}).run? .agreeing untilReady = some x ∧
      x.turn? .agreeing (.send (some plainProfile)) = some x' ∧
      x'.run? .agreeing untilHandlesGone = some y ∧ y.controller.stage = .stopped ∧
      x'.PickedUp .agreeing (some plainProfile) untilHandlesGone := by
  obtain ⟨x, x', y, hx, hsend, hy, hstopped, hgranted, hgoes, haccepted⟩ :
      ∃ x x' y : Crowd, (create {} {}).run? .agreeing untilReady = some x ∧
        x.turn? .agreeing (.send (some plainProfile)) = some x' ∧
        x'.run? .agreeing untilHandlesGone = some y ∧ y.controller.stage = .stopped ∧
        x.granted? (.send (some plainProfile)) = some (some plainProfile) ∧
        x.controller.stage.isEnding = false ∧ x'.accepted .agreeing untilHandlesGone = [] :=
    ⟨_, _, _, Option.eq_some_of_isSome (by decide +kernel),
      Option.eq_some_of_isSome (by decide +kernel), Option.eq_some_of_isSome (by decide +kernel),
      by decide +kernel, by decide +kernel, by decide +kernel, by decide +kernel⟩
  have hserved := ((served_iff_of_stopped hx hsend hy hstopped).2 hgranted).mpr
    (by rw [hgoes]; exact nofun)
  exact ⟨x, x', y, hx, hsend, hy, hstopped, hserved.resolve_right fun h => h haccepted⟩

/-- On a platform without placeholders a connection is made and is not wanted any more, and the
engine is being taken down. -/
def untilInTakeDown : List Turn :=
  [.move .start, .send (some plainProfile)] ++ List.replicate 8 .next ++ [.send none] ++
    List.replicate 3 .next

/-- A request `x.granted?` in `.inTakeDown none`, while the engine is taken down for the last time,
is neither `PickedUp` nor `Superseded` when the loop has ended. -/
theorem lost_inTakeDown :
    ∃ x x' y : Crowd,
      (create {} { blockingPlaceholder := false }).run? .agreeing untilInTakeDown = some x ∧
      x.controller.stage = .inTakeDown none ∧
      x.granted? (.send (some plainProfile)) = some (some plainProfile) ∧
      x.turn? .agreeing (.send (some plainProfile)) = some x' ∧
      x'.run? .agreeing (List.replicate 4 .next) = some y ∧ y.controller.stage = .stopped ∧
      ¬ x'.PickedUp .agreeing (some plainProfile) (List.replicate 4 .next) ∧
      ¬ x'.Superseded .agreeing (List.replicate 4 .next) := by
  obtain ⟨x, x', y, hx, hstage, hgranted, hsend, hy, hstopped, hending, haccepted⟩ :
      ∃ x x' y : Crowd,
        (create {} { blockingPlaceholder := false }).run? .agreeing untilInTakeDown = some x ∧
        x.controller.stage = .inTakeDown none ∧
        x.granted? (.send (some plainProfile)) = some (some plainProfile) ∧
        x.turn? .agreeing (.send (some plainProfile)) = some x' ∧
        x'.run? .agreeing (List.replicate 4 .next) = some y ∧ y.controller.stage = .stopped ∧
        x'.controller.stage.isEnding = true ∧
        x'.accepted .agreeing (List.replicate 4 .next) = [] :=
    ⟨_, _, _, Option.eq_some_of_isSome (by decide +kernel), by decide +kernel, by decide +kernel,
      Option.eq_some_of_isSome (by decide +kernel), Option.eq_some_of_isSome (by decide +kernel),
      by decide +kernel, by decide +kernel, by decide +kernel⟩
  exact ⟨x, x', y, hx, hstage, hgranted, hsend, hy, hstopped,
    not_pickedUp_of_isEnding hending _ _, fun h => h haccepted⟩

end Crowd

end SplitTunnel
