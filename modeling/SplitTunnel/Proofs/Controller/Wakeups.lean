import SplitTunnel.Proofs.Controller.History

/-!
# Waking up and looking (`SPEC_FULL.md` §5, the watch channel)

Where the loop waits for a request it does two things one after the other: it is woken, which marks
the request in the slot as seen, and it takes what is in the slot then. In between anything may
happen but a step of the loop, and the request may be replaced.

* `Watch`, `Watch.beat?`, `Watch.run?`: the loop and its handles, with the two apart.
* `Watch.settled`, `Watch.exists_turns`: whatever happens in between, it is as if the loop had done
  both when it takes the request.
* `Watch.last_write_wins`: what is picked up is the request accepted last, requests that are
  replaced leave no trace, and the loop ends with the first look that finds no connection wanted.
-/

namespace SplitTunnel

open Controller (Move plainProfile)

/-- The loop with its handles, and whether it has been woken. -/
structure Watch where
  crowd : Crowd
  /-- The loop has been woken and has not looked at the slot yet. -/
  woken : Bool := false

namespace Watch

open Crowd (Turn Pending)

/-- Something that happens to a `Watch`. -/
inductive Beat where
  | turn (t : Turn)
  /-- The loop is woken by a request that it has not seen, or finds that nobody can make one. -/
  | wake
  | look
deriving DecidableEq, Repr

/-- A loop that has not been started and its first handle. -/
def create (config : ServiceConfig) (supported : Capabilities) : Watch where
  crowd := .create config supported

variable {p : Platform} {x y : Watch} {b : Beat} {t : Turn} {beats rest : List Beat}

/-- The loop of `x`. -/
def controller (x : Watch) : Controller := x.crowd.controller

/-- `x` with another state of the loop. -/
def setController (x : Watch) (controller : Controller) : Watch :=
  { x with crowd := { x.crowd with controller } }

/-- The turn is a step of the loop where it waits. -/
def isLook (x : Crowd) : Turn → Bool
  | .move (.act (.advance _)) => x.controller.stage == .ready
  | _ => false

/-- `x` after a beat, if it can happen. -/
def beat? (p : Platform) (x : Watch) : Beat → Option Watch
  | .turn t =>
    if isLook x.crowd t then none else (x.crowd.turn? p t).map fun crowd => { x with crowd }
  | .wake =>
    if x.controller.stage = .ready ∧ x.woken = false then
      if x.controller.slot.unseen then
        some { x.setController { x.controller with slot := x.controller.slot.seen } with
          woken := true }
      else if x.controller.handles then none
      else some (x.setController (x.controller.pick none))
    else none
  | .look =>
    if x.woken then
      some { x.setController (({ x.controller with slot := x.controller.slot.seen } :
        Controller).pick x.controller.slot.latest) with woken := false }
    else none

/-- `x` after beats in order, if they can happen. -/
def run? (p : Platform) (x : Watch) : List Beat → Option Watch
  | [] => some x
  | b :: rest => (x.beat? p b).bind fun y => y.run? p rest

/-- What a beat adds to the history of `x`. -/
def event? (x : Watch) : Beat → Option Crowd.Event
  | .turn t => x.crowd.event? t
  | .wake => if x.controller.slot.unseen then none else some .closed
  | .look => some (.picked x.controller.slot.latest)

/-- What a run adds to the history of `x`. -/
def history (p : Platform) (x : Watch) : List Beat → List Crowd.Event
  | [] => []
  | b :: rest => (x.event? b).toList ++ ((x.beat? p b).map fun y => y.history p rest).getD []

theorem run?_cons : x.run? p (b :: rest) = some y ↔
    ∃ x', x.beat? p b = some x' ∧ x'.run? p rest = some y := Option.bind_eq_some_iff

theorem history_cons (h : x.beat? p b = some y) (rest : List Beat) :
    x.history p (b :: rest) = (x.event? b).toList ++ y.history p rest := by
  rw [history, h]
  rfl

/-! ## Both at once -/

/-- What is in the slot if the loop has not been woken yet. -/
def pendingSlot (x : Watch) : Slot :=
  { x.controller.slot with unseen := x.controller.slot.unseen || x.woken }

/-- `x` as if the loop had not been woken yet. -/
def settled (x : Watch) : Crowd :=
  { x.crowd with controller := { x.controller with slot := x.pendingSlot } }

/-- A loop that has been woken waits to look at the slot. -/
def Sound (x : Watch) : Prop := x.woken = true → x.controller.stage = .ready

/-- A beat that can happen, and what it leaves of `x`. -/
inductive Beaten (p : Platform) (x : Watch) : Beat → Watch → Prop where
  | turn (t : Turn) (hl : isLook x.crowd t = false) (crowd : Crowd)
      (ht : x.crowd.turn? p t = some crowd) : Beaten p x (.turn t) { x with crowd }
  | wake (hs : x.controller.stage = .ready) (hw : x.woken = false)
      (hslot : x.controller.slot.unseen = true) :
      Beaten p x .wake { x.setController { x.controller with slot := x.controller.slot.seen } with
        woken := true }
  | close (hs : x.controller.stage = .ready) (hw : x.woken = false)
      (hslot : x.controller.slot.unseen = false) (hh : x.controller.handles = false) :
      Beaten p x .wake (x.setController (x.controller.pick none))
  | look (hw : x.woken = true) :
      Beaten p x .look { x.setController (({ x.controller with slot := x.controller.slot.seen } :
        Controller).pick x.controller.slot.latest) with woken := false }

theorem beaten_of_beat? (h : x.beat? p b = some y) : Beaten p x b y := by
  cases b with
  | turn t =>
    rw [beat?] at h
    split at h
    · cases h
    · next hl =>
      obtain ⟨crowd, ht, rfl⟩ := Option.map_eq_some_iff.mp h
      exact .turn t (Bool.eq_false_iff.mpr hl) crowd ht
  | wake =>
    rw [beat?] at h
    split at h
    · next hs =>
      split at h
      · next hslot =>
        cases h
        exact .wake hs.1 hs.2 hslot
      · next hslot =>
        split at h <;> cases h
        next hh =>
        exact .close hs.1 hs.2 (Bool.eq_false_iff.mpr hslot) (Bool.eq_false_iff.mpr hh)
    · cases h
  | look =>
    rw [beat?] at h
    split at h <;> cases h
    next hw => exact .look hw

/-- A turn that is no `isLook` picks nothing up. -/
theorem taken?_of_isLook {m : Move} {c : Crowd} (hl : isLook c (.move m) = false) :
    c.controller.taken? m = none := by
  unfold Controller.taken?
  split
  · exact if_neg fun hs => by simp [isLook, hs] at hl
  · rfl

theorem stage_of_turn? {c d : Crowd} (hl : isLook c t = false) (ht : c.turn? p t = some d)
    (hs : c.controller.stage = .ready) : d.controller.stage = .ready := by
  have hturned := Crowd.turned_of_turn? ht
  clear ht
  cases hturned with
  | idle _ _ he slot loop => exact (congrArg (·.stage) loop).trans hs
  | accept target _ he hc => rw [hc, hs]
  | pick m target he | close m he =>
    rw [Crowd.event?_of_not_taken (taken?_of_isLook hl)] at he
    cases he
  | move m he hu ht _ hm =>
    rcases Controller.move?_cases hm with ⟨up, rfl, -⟩ | ⟨-, hcreated, -⟩ | ⟨-, ha⟩
    · simp [isLook, hs] at hl
    · cases hs.symm.trans hcreated
    · exact ha.stage.trans hs

theorem Sound.beat? (h : x.Sound) (hb : x.beat? p b = some y) : y.Sound := by
  cases beaten_of_beat? hb with
  | turn t hl crowd ht => exact fun hw => stage_of_turn? hl ht (h hw)
  | wake hs => exact fun _ => hs
  | close hs hw => exact fun hw' => by cases hw.symm.trans hw'
  | look hw => exact nofun

/-- A turn `t` that is no `isLook` does not ask whether the loop has been woken. -/
theorem settled_turn? {crowd : Crowd} (hl : isLook x.crowd t = false)
    (ht : x.crowd.turn? p t = some crowd) :
    x.settled.turn? p t = some ({ x with crowd } : Watch).settled ∧
      x.settled.event? t = x.crowd.event? t := by
  obtain ⟨⟨c, n⟩, woken⟩ := x
  cases t with
  | copy =>
    rw [Crowd.turn?] at ht ⊢
    split at ht <;> cases ht
    next hn => exact ⟨if_neg hn, rfl⟩
  | drop =>
    obtain _ | _ | n := n
    · cases ht
    · cases ht
      exact ⟨rfl, rfl⟩
    · cases ht
      exact ⟨rfl, rfl⟩
  | send target =>
    rw [Crowd.turn?] at ht ⊢
    split at ht <;> cases ht
    next hn =>
    rw [show (⟨⟨c, n⟩, woken⟩ : Watch).settled.handles = n from rfl, if_neg hn]
    -- A request is accepted whatever the slot holds, and replaces that.
    by_cases hopen : (c.handles && c.isOpen) = true
    · have hr (slot : Slot) : ({ c with slot } : Controller).request? target =
          some { c with slot := slot.send target } := if_pos hopen
      have hc : c.request? target = some { c with slot := c.slot.send target } := hr c.slot
      refine ⟨?_, ?_⟩
      · rw [hc, settled, controller, hr]
        rfl
      · rw [Crowd.event?, Crowd.event?, hc, settled, controller, hr]
        rfl
    · have hr (slot : Slot) : ({ c with slot } : Controller).request? target = none :=
        if_neg hopen
      have hc : c.request? target = none := hr c.slot
      refine ⟨?_, ?_⟩
      · rw [hc, settled, controller, hr]
        rfl
      · rw [Crowd.event?, Crowd.event?, hc, settled, controller, hr]
  | move m =>
    have htaken := taken?_of_isLook hl
    rw [Crowd.turn?] at ht ⊢
    split at ht
    · cases ht
    · next hu =>
      have hu := Bool.eq_false_iff.mpr hu
      obtain ⟨c', hm, rfl⟩ := Option.map_eq_some_iff.mp ht
      -- A move that is no look neither reads the slot nor changes it.
      have hslot := Controller.slot_move? hm (fun target hr => by rw [hr] at hu; cases hu) htaken
      have hhandles := Controller.handles_move? hm hu
      have hm' := Controller.move?_with hm hu htaken
        (⟨⟨c, n⟩, woken⟩ : Watch).pendingSlot c.handles
      have hc' : ({ c' with slot := (⟨⟨c, n⟩, woken⟩ : Watch).pendingSlot, handles := c.handles } :
          Controller) = { c' with slot := (⟨⟨c', n⟩, woken⟩ : Watch).pendingSlot } := by
        simp only [pendingSlot, controller, hslot, hhandles]
      refine ⟨?_, ?_⟩
      · rw [hc'] at hm'
        rw [if_neg (by simp [hu])]
        exact congrArg (Option.map fun controller => (⟨controller, n⟩ : Crowd)) hm'
      · have htaken' : (⟨⟨c, n⟩, woken⟩ : Watch).settled.controller.taken? m = none :=
          taken?_of_isLook hl
        rw [Crowd.event?_of_not_taken htaken, Crowd.event?_of_not_taken htaken']

theorem turn?_next {c : Crowd} (hs : c.controller.stage = .ready) :
    c.turn? p .next = c.controller.look?.map fun controller => { c with controller } := by
  have hturn : c.turn? p .next =
      (c.controller.advance? p true).map fun controller => { c with controller } := rfl
  rw [hturn, Controller.advance?, hs]

theorem taken?_next {c : Controller} (hs : c.stage = .ready) :
    c.taken? .next = c.slot.pick?.or (if c.handles then none else some none) := if_pos hs

theorem settled_of_not_woken (hw : x.woken = false) : x.settled = x.crowd := by
  rw [settled, pendingSlot, hw, Bool.or_false]
  rfl

/-- A beat `b` either leaves `x.settled` as it is, or is one turn of it. -/
theorem Sound.settled_beat? (h : x.Sound) (hb : x.beat? p b = some y) :
    (y.settled = x.settled ∧ x.event? b = none) ∨
      ∃ t, x.settled.turn? p t = some y.settled ∧ x.settled.event? t = x.event? b := by
  have hbeaten := beaten_of_beat? hb
  clear hb
  cases hbeaten with
  | turn t hl crowd ht =>
    obtain ⟨hturn, hevent⟩ := settled_turn? hl ht
    exact .inr ⟨t, hturn, hevent⟩
  -- The request counts as unseen until the loop looks, so nothing has happened yet.
  | wake hs hw hslot =>
    refine .inl ⟨?_, if_pos hslot⟩
    simp [settled, pendingSlot, setController, controller, Slot.seen, hw,
      show x.crowd.controller.slot.unseen = true from hslot]
  | close hs hw hslot hh =>
    have hslot : x.crowd.controller.slot.unseen = false := hslot
    have hh : x.crowd.controller.handles = false := hh
    have hnone : x.crowd.controller.slot.pick? = none := if_neg (by simp [hslot])
    rw [settled_of_not_woken hw,
      settled_of_not_woken (x := x.setController (x.controller.pick none)) hw]
    refine .inr ⟨.next, ?_, ?_⟩
    · rw [turn?_next hs, Controller.look?, hnone, hh]
      rfl
    · have htaken : x.crowd.controller.taken? .next = some none := by
        rw [taken?_next (c := x.crowd.controller) hs, hnone, hh]
        rfl
      refine (Crowd.event?_of_taken htaken).trans ?_
      rw [event?, controller, hslot]
      rfl
  -- This is where the settled loop takes its step.
  | look hw =>
    have hs : x.settled.controller.stage = .ready := h hw
    have hunseen : x.settled.controller.slot.unseen = true := by
      show (_ || x.woken) = true
      rw [hw, Bool.or_true]
    have hpick : x.settled.controller.slot.pick? = some x.controller.slot.latest := if_pos hunseen
    refine .inr ⟨.next, ?_, ?_⟩
    · rw [turn?_next hs, Controller.look?, hpick, settled_of_not_woken (x := { crowd := _ }) rfl]
      rfl
    · have htaken : x.settled.controller.taken? .next = some x.controller.slot.latest := by
        rw [taken?_next hs, hpick]
        rfl
      refine (Crowd.event?_of_taken htaken).trans ?_
      rw [hunseen]
      rfl

/-- A run of `beats` is one of the loop that is woken and looks at once, with the same history. -/
theorem Sound.exists_turns (h : x.Sound) (hy : x.run? p beats = some y) :
    y.Sound ∧ ∃ turns, x.settled.run? p turns = some y.settled ∧
      x.settled.history p turns = x.history p beats := by
  induction beats generalizing x with
  | nil =>
    cases hy
    exact ⟨h, [], rfl, rfl⟩
  | cons b rest ih =>
    obtain ⟨x', hb, hrest⟩ := run?_cons.mp hy
    obtain ⟨hsound, turns, hturns, hhistory⟩ := ih (h.beat? hb) hrest
    refine ⟨hsound, ?_⟩
    rw [history_cons hb, ← hhistory]
    rcases h.settled_beat? hb with ⟨hsame, he⟩ | ⟨t, ht, he⟩
    · rw [he, ← hsame]
      exact ⟨turns, hturns, rfl⟩
    · refine ⟨t :: turns, Crowd.run?_cons.mpr ⟨x'.settled, ht, hturns⟩, ?_⟩
      rw [Crowd.history_cons ht, he]

/-! ## Requests -/

/-- A loop that is ending goes on by itself until it is `stopped`. -/
theorem advance?_of_isEnding {c : Controller} (hs : c.stage.isEnding = true)
    (hne : c.stage ≠ .stopped) (p : Platform) (up : Bool) :
    ∃ c', c.advance? p up = some c' ∧ c'.stage.isEnding = true ∧
      c'.stage.rank < c.stage.rank := by
  have hgoes : ∃ c', c.advance? p up = some c' := by
    unfold Stage.isEnding at hs
    split at hs
    case h_1 hstage =>
      rw [Controller.advance?, hstage]
      cases c.current <;> exact ⟨_, rfl⟩
    case h_7 hstage => exact absurd hstage hne
    case h_8 => cases hs
    all_goals
      next hstage =>
      rw [Controller.advance?, hstage]
      exact ⟨_, rfl⟩
  obtain ⟨c', ha⟩ := hgoes
  have hready : c.stage ≠ .ready := by
    intro hready
    rw [hready] at hs
    cases hs
  have hending := Controller.isEnding_move? (p := p) (m := .act (.advance up)) ha
  have hwork := (Controller.work_advance? ha).1
  have hslot := Controller.slot_advance? hready ha
  rw [Controller.work, Controller.work, hslot] at hwork
  rw [hs, Bool.true_or] at hending
  exact ⟨c', ha, hending, by omega⟩

/-- `wake` cannot happen to a loop that waits exactly if the slot has no unseen request and there
are handles. -/
theorem beat?_wake_eq_none_iff (hs : x.controller.stage = .ready) (hw : x.woken = false)
    (hc : x.crowd.Counted) :
    x.beat? p .wake = none ↔ x.controller.slot.unseen = false ∧ x.crowd.handles ≠ 0 := by
  have hc : x.controller.handles = (x.crowd.handles != 0) := hc
  rw [beat?, if_pos ⟨hs, hw⟩, hc]
  cases x.controller.slot.unseen <;> simp

theorem event?_wake_eq_closed_iff (x : Watch) :
    x.event? .wake = some .closed ↔ x.controller.slot.unseen = false := by
  rw [event?]
  cases x.controller.slot.unseen <;> simp

/-- Whatever is done with handles and in which order, before, between and after the `wake` and the
`look` of the loop: what it picks up are some of the accepted requests in the order in which they
were made, each is the one that was `Pending`, accepted last and not picked up before, and
`x.controller.loop` is what these looks and the other moves make of it, with no regard to requests
that have been replaced. It waits exactly while no request is `Pending` and there are handles. When
no request is `Pending` and there are no handles, it sees that and picks up nothing. It ends with
the first `picked none`, or when it sees that there are no handles, and then it does not look again
and goes on until it is `stopped`. -/
theorem last_write_wins {config : ServiceConfig} {supported : Capabilities}
    (hx : (create config supported).run? p beats = some x) :
    ∃ h : List Crowd.Event, (create config supported).history p beats = h ∧
      (h.filterMap Crowd.Event.picked?).Sublist (h.filterMap Crowd.Event.accepted?) ∧
      (∀ past target future, h = past ++ .picked target :: future → Pending past target) ∧
      (∀ past future, h = past ++ .closed :: future → ∀ target, ¬ Pending past target) ∧
      (Controller.create config supported).redoAll? p
        (h.filter fun e => e.accepted?.isNone) = some x.controller.loop ∧
      (∀ target, (x.beat? p .look).isSome = true → x.event? .look = some (.picked target) →
        Pending h target) ∧
      (x.controller.stage = .ready → x.woken = false →
        (x.beat? p .wake = none ↔ (∀ target, ¬ Pending h target) ∧ x.crowd.handles ≠ 0) ∧
        (x.event? .wake = some .closed ↔ ∀ target, ¬ Pending h target)) ∧
      (x.controller.stage.isEnding = true ↔ ∃ e ∈ h, e.isEnd = true) ∧
      (∀ past e future, h = past ++ e :: future → e.isEnd = true →
        ∀ e' ∈ future, e'.isLook = false) ∧
      (x.controller.stage.isEnding = true → x.controller.stage ≠ .stopped → ∀ up,
        ∃ c, x.controller.advance? p up = some c ∧ c.stage.isEnding = true ∧
          c.stage.rank < x.controller.stage.rank) := by
  have hsound : (create config supported).Sound := nofun
  have hcreate : (create config supported).settled = Crowd.create config supported :=
    settled_of_not_woken rfl
  -- A run with waking and looking apart has the history of one with both at once.
  obtain ⟨hxs, turns, hturns, hhistory⟩ := hsound.exists_turns hx
  rw [hcreate] at hturns hhistory
  have horderly := (Crowd.orderly_create config supported).run? hturns
  rw [List.nil_append, hhistory] at horderly
  have hredo := Crowd.redo_history hturns
  rw [hhistory] at hredo
  have hcounted : x.settled.Counted :=
    Crowd.Counted.run? (show (Crowd.create config supported).Counted from rfl) hturns
  refine ⟨_, rfl, (Crowd.picked_sublist_accepted horderly.picks).1, horderly.picks,
    horderly.closings, (Controller.redoAll?_filter _ _).trans hredo, fun target hlook he => ?_,
    fun hs hw => ?_, horderly.ending, horderly.last,
    fun hs hne up => advance?_of_isEnding hs hne p up⟩
  · have hw : x.woken = true := by
      by_contra hw
      rw [beat?, if_neg hw] at hlook
      cases hlook
    cases he
    refine (horderly.pending _).mp (if_pos ?_)
    show (_ || x.woken) = true
    rw [hw, Bool.or_true]
  · have hnone := horderly.unseen_eq_false_iff
    rw [settled_of_not_woken hw] at hnone hcounted
    exact ⟨by rw [beat?_wake_eq_none_iff hs hw hcounted, ← hnone]; rfl,
      (event?_wake_eq_closed_iff x).trans hnone⟩

/-- The loop is woken by a request, and before it looks at the slot the connection is no longer
wanted. -/
def overtaken : List Beat :=
  [.turn (.move .start), .turn (.send (some plainProfile)), .wake, .turn .copy,
    .turn (.send none), .turn .drop, .look]

/-- In `overtaken` the request by which the loop has been woken leaves no trace. -/
theorem last_write_wins_overtaken :
    ∃ x, (create {} {}).run? .agreeing overtaken = some x ∧
      (create {} {}).history .agreeing overtaken =
        [.moved .start, .accepted (some plainProfile), .accepted none, .picked none] ∧
      (Controller.create {} {}).redoAll? .agreeing [.moved .start, .picked none] =
        some x.controller.loop ∧
      x.controller.stage.isEnding = true := by
  obtain ⟨x, hx⟩ : ∃ x, (create {} {}).run? .agreeing overtaken = some x :=
    ⟨_, Option.eq_some_of_isSome (by decide +kernel)⟩
  have hhistory : (create {} {}).history .agreeing overtaken =
      [.moved .start, .accepted (some plainProfile), .accepted none, .picked none] := by
    decide +kernel
  obtain ⟨h, hh, -, -, -, hredo, -, -, hending, -⟩ := last_write_wins hx
  obtain rfl := hh.symm.trans hhistory
  exact ⟨x, hx, hhistory, hredo, hending.mpr ⟨.picked none, by simp, rfl⟩⟩

end Watch

end SplitTunnel
