import SplitTunnel.Proofs.Controller.Requests
import Mathlib.Data.List.Induction

/-!
# The history of requests (`SPEC_FULL.md` §5, ordering of profile changes)

Requests that are accepted, what the loop picks up and all other moves make a history.

* `Crowd.Event`, `Crowd.event?`, `Crowd.history`: what a turn adds to the history.
* `Crowd.Pending`: the last request has been accepted after the loop's last look.
* `Crowd.Orderly`: what is picked up is the pending request, and the loop's look at an empty slot
  or at a request for no connection is its last one.
* `Crowd.picked_sublist_accepted`: what is picked up are some of the accepted requests, in order.
* `Controller.redo?`, `Crowd.redo_history`: the loop is what its looks and the other moves have
  made of it, whatever else has been accepted.
-/

namespace SplitTunnel

namespace Controller

variable {p : Platform} {c c' : Controller} {m : Move}

/-! ## Without the slot -/

theorem pick_with (c : Controller) (slot : Slot) (handles : Bool) (target : Target) :
    ({ c with slot, handles } : Controller).pick target =
      { c.pick target with slot, handles } := by
  unfold pick
  split
  · dsimp only
    split <;> rfl
  · rfl

theorem advance?_with {up : Bool} (hs : c.stage ≠ .ready) (ha : c.advance? p up = some c')
    (slot : Slot) (handles : Bool) :
    ({ c with slot, handles } : Controller).advance? p up = some { c' with slot, handles } := by
  unfold advance? at ha ⊢
  dsimp only
  split at ha
  case h_1 | h_2 => cases ha
  case h_3 hready => exact absurd hready hs
  case h_6 next hstage =>
    rw [hstage]
    split at ha <;> cases ha <;> cases next <;> rfl
  case h_13 q hstage =>
    rw [hstage]
    split at ha <;> cases ha <;> rfl
  case h_15 q hstage | h_16 q hstage =>
    rw [hstage]
    split at ha <;> cases ha
    · next hif =>
      show (if _ then _ else _) = _
      rw [if_pos hif]
      rfl
    · next hif =>
      show (if _ then _ else _) = _
      rw [if_neg hif]
      rfl
  all_goals
    next hstage =>
    cases ha
    rw [hstage]
    rfl

/-- A move `m` by which nothing is picked up, and which is not the users', does not depend on the
`slot` or the `handles`. -/
theorem move?_with (hm : c.move? p m = some c') (hu : m.isUsers = false)
    (ht : c.taken? m = none) (slot : Slot) (handles : Bool) :
    ({ c with slot, handles } : Controller).move? p m = some { c' with slot, handles } := by
  cases moved_of_move? hm with
  | start hs =>
    rw [move?, start?, if_pos hs]
    rfl
  | request | dropHandles => cases hu
  | callback b => cases b <;> rfl
  | advance up _ ha =>
    refine advance?_with (fun hs => ?_) ha slot handles
    rw [advance?, hs] at ha
    obtain ⟨target, hpending, -⟩ := look?_eq_some hs ha
    cases ht.symm.trans hpending
  | descriptor i a host ha hh =>
    rw [move?, if_neg ha, hh]
    rfl

/-- `c` without what the users do. -/
def loop (c : Controller) : Controller := { c with slot := {}, handles := true }

theorem loop_pick (c : Controller) (slot : Slot) (target : Target) :
    (({ c with slot } : Controller).pick target).loop = c.loop.pick target := by
  have hslot := pick_with c slot c.handles target
  have hloop := pick_with c {} true target
  exact (congrArg loop hslot).trans hloop.symm

end Controller

namespace Crowd

open Controller (Move)

variable {p : Platform} {x y : Crowd} {t : Turn} {turns rest : List Turn} {target : Target}

/-! ## Events -/

/-- Something that has happened. -/
inductive Event where
  | accepted (target : Target)
  | picked (target : Target)
  /-- The loop has seen that nobody can make a request. -/
  | closed
  /-- Anything else but the copying and dropping of handles. -/
  | moved (m : Move)
deriving DecidableEq, Repr

namespace Event

/-- The request that has been accepted. -/
def accepted? : Event → Option Target
  | accepted target => some target
  | _ => none

/-- The request that has been picked up. -/
def picked? : Event → Option Target
  | picked target => some target
  | _ => none

/-- The loop has looked at the slot. -/
def isLook : Event → Bool
  | picked _ | closed => true
  | _ => false

/-- The loop has seen that no connection is wanted any more. -/
def isEnd : Event → Bool
  | picked none | closed => true
  | _ => false

/-- Nothing has happened to requests. -/
def isMove : Event → Bool
  | moved _ => true
  | _ => false

end Event

/-- What a turn adds to the history of `x`. -/
def event? (x : Crowd) : Turn → Option Event
  | .send target => (x.controller.request? target).map fun _ => .accepted target
  | .move m =>
    match x.controller.taken? m with
    | some target => some (if x.controller.slot.unseen then .picked target else .closed)
    | none => some (.moved m)
  | .copy | .drop => none

theorem event?_of_taken {m : Move} (ht : x.controller.taken? m = some target) :
    x.event? (.move m) =
      some (if x.controller.slot.unseen then .picked target else .closed) := by
  rw [event?, ht]

theorem event?_of_not_taken {m : Move} (ht : x.controller.taken? m = none) :
    x.event? (.move m) = some (.moved m) := by
  rw [event?, ht]

/-- What a run adds to the history of `x`. -/
def history (p : Platform) (x : Crowd) : List Turn → List Event
  | [] => []
  | t :: rest => (x.event? t).toList ++ ((x.turn? p t).map fun y => y.history p rest).getD []

theorem history_cons (h : x.turn? p t = some y) (rest : List Turn) :
    x.history p (t :: rest) = (x.event? t).toList ++ y.history p rest := by
  rw [history, h]
  rfl

/-- A turn that can happen: a handle is copied or dropped or a request refused; a request is
accepted; the loop looks; anything else. -/
inductive Turned (p : Platform) (x : Crowd) : Turn → Crowd → Prop where
  | idle (t : Turn) (y : Crowd) (he : x.event? t = none)
      (slot : y.controller.slot = x.controller.slot)
      (loop : y.controller.loop = x.controller.loop) : Turned p x t y
  | accept (target : Target) (y : Crowd) (he : x.event? (.send target) = some (.accepted target))
      (hc : y.controller = { x.controller with slot := x.controller.slot.send target }) :
      Turned p x (.send target) y
  | pick (m : Move) (target : Target) (he : x.event? (.move m) = some (.picked target))
      (hs : x.controller.stage = .ready) (hslot : x.controller.slot = ⟨target, true⟩)
      (y : Crowd)
      (hc : y.controller =
        ({ x.controller with slot := x.controller.slot.seen } : Controller).pick target) :
      Turned p x (.move m) y
  | close (m : Move) (he : x.event? (.move m) = some .closed)
      (hs : x.controller.stage = .ready) (hslot : x.controller.slot.unseen = false)
      (hh : x.controller.handles = false) (y : Crowd)
      (hc : y.controller = x.controller.pick none) : Turned p x (.move m) y
  | move (m : Move) (he : x.event? (.move m) = some (.moved m)) (hu : m.isUsers = false)
      (ht : x.controller.taken? m = none) (y : Crowd)
      (hm : x.controller.move? p m = some y.controller) : Turned p x (.move m) y

theorem turned_of_turn? (h : x.turn? p t = some y) : Turned p x t y := by
  cases t with
  | copy =>
    rw [turn?] at h
    split at h <;> cases h
    exact .idle _ _ rfl rfl rfl
  | drop =>
    rw [turn?] at h
    split at h <;> cases h <;> exact .idle _ _ rfl rfl rfl
  | send target =>
    rw [turn?] at h
    split at h <;> cases h
    cases hr : x.controller.request? target with
    | none => exact .idle _ _ (by rw [event?, hr]; rfl) rfl rfl
    | some c =>
      refine .accept target _ (by rw [event?, hr]; rfl) ?_
      unfold Controller.request? at hr
      split at hr <;> cases hr
      rfl
  | move m =>
    rw [turn?] at h
    split at h
    · cases h
    · next hu =>
      obtain ⟨c, hm, rfl⟩ := Option.map_eq_some_iff.mp h
      cases ht : x.controller.taken? m with
      | none => exact .move m (event?_of_not_taken ht) (Bool.eq_false_iff.mpr hu) ht _ hm
      -- A look finds a request that is unseen, or that nobody can make one.
      | some target =>
        obtain ⟨hs, up, rfl, hpending⟩ := Controller.ready_of_taken? ht
        rw [Controller.move?, Controller.step?, Controller.advance?, hs] at hm
        unfold Controller.look? at hm
        rw [Controller.pending?, if_pos hs] at hpending
        cases hunseen : x.controller.slot.unseen with
        | true =>
          rw [Slot.pick?, if_pos hunseen] at hm hpending
          cases hpending
          cases hm
          refine .pick _ _ (by simp [event?_of_taken ht, hunseen]) hs ?_ _ rfl
          rw [← hunseen]
        | false =>
          rw [Slot.pick?, if_neg (by simp [hunseen])] at hm hpending
          dsimp only at hm
          split at hm <;> cases hm
          next hh =>
          rw [if_neg hh] at hpending
          cases hpending
          exact .close _ (by simp [event?_of_taken ht, hunseen]) hs hunseen
            (Bool.eq_false_iff.mpr hh) _ rfl

/-! ## The order of events -/

section Order

variable {h past future rest : List Event} {e e' : Event}

/-- Where one more event `e` is split off `h`. -/
theorem concat_eq_append_cons (heq : h ++ [e] = past ++ e' :: future) :
    (past = h ∧ e' = e ∧ future = []) ∨ ∃ rest, future = rest ++ [e] ∧ h = past ++ e' :: rest := by
  rcases List.eq_nil_or_concat future with rfl | ⟨rest, last, rfl⟩
  · obtain ⟨rfl, hlast⟩ := List.append_inj' heq rfl
    exact .inl ⟨rfl, (List.cons.inj hlast).1.symm, rfl⟩
  · rw [List.concat_eq_append] at heq ⊢
    rw [← List.cons_append, ← List.append_assoc] at heq
    obtain ⟨rfl, hlast⟩ := List.append_inj' heq rfl
    exact .inr ⟨rest, by rw [(List.cons.inj hlast).1], rfl⟩

/-- `target` is the last request in `h` that has been accepted, and the loop has not looked since.
-/
def Pending (h : List Event) (target : Target) : Prop :=
  ∃ past moves, h = past ++ .accepted target :: moves ∧ ∀ e ∈ moves, e.isMove = true

theorem pending_concat :
    Pending (h ++ [e]) target ↔ e = .accepted target ∨ e.isMove = true ∧ Pending h target := by
  constructor
  · rintro ⟨past, moves, heq, hmoves⟩
    rcases concat_eq_append_cons heq with ⟨-, he, -⟩ | ⟨rest, rfl, rfl⟩
    · exact .inl he.symm
    · refine .inr ⟨hmoves e (by simp), past, rest, rfl, fun e' he' => hmoves e' ?_⟩
      exact List.mem_append_left _ he'
  · rintro (rfl | ⟨he, past, moves, rfl, hmoves⟩)
    · exact ⟨h, [], rfl, fun e he => absurd he List.not_mem_nil⟩
    · refine ⟨past, moves ++ [e], by simp, fun e' he' => ?_⟩
      rcases List.mem_append.mp he' with he' | he'
      · exact hmoves e' he'
      · rw [List.mem_singleton.mp he']
        exact he

/-- The history `h` fits together, and `x` is where it says. -/
structure Orderly (x : Crowd) (h : List Event) : Prop where
  /-- The slot has the `Pending` request. -/
  pending : ∀ target, x.controller.slot.pick? = some target ↔ Pending h target
  /-- What is picked up is the `Pending` request. -/
  picks : ∀ past target future, h = past ++ .picked target :: future → Pending past target
  /-- Nothing is `Pending` when the loop sees that nobody can make a request. -/
  closings : ∀ past future, h = past ++ .closed :: future → ∀ target, ¬ Pending past target
  ending : x.controller.stage.isEnding = true ↔ ∃ e ∈ h, e.isEnd = true
  /-- The loop does not look again once it ends. -/
  last : ∀ past e future, h = past ++ e :: future → e.isEnd = true →
    ∀ e' ∈ future, e'.isLook = false

theorem orderly_create (config : ServiceConfig) (supported : Capabilities) :
    (create config supported).Orderly [] := by
  have hnone {past future : List Event} {e : Event} : [] ≠ past ++ e :: future := by simp
  refine ⟨fun target => ⟨nofun, ?_⟩, fun _ _ _ h => absurd h hnone, fun _ _ h => absurd h hnone,
    ⟨nofun, fun ⟨e, he, _⟩ => absurd he List.not_mem_nil⟩, fun _ _ _ h => absurd h hnone⟩
  rintro ⟨past, moves, h, -⟩
  exact absurd h hnone

/-- One more event `e` in the history. -/
theorem Orderly.concat (ho : x.Orderly h)
    (hslot : ∀ target, y.controller.slot.pick? = some target ↔
      e = .accepted target ∨ e.isMove = true ∧ x.controller.slot.pick? = some target)
    (hpick : ∀ target, e = .picked target → x.controller.slot.pick? = some target)
    (hclose : e = .closed → x.controller.slot.pick? = none)
    (hending : y.controller.stage.isEnding = (x.controller.stage.isEnding || e.isEnd))
    (hlook : e.isLook = true → x.controller.stage.isEnding = false) :
    y.Orderly (h ++ [e]) := by
  refine ⟨fun target => ?_, ?_, ?_, ?_, ?_⟩
  · rw [hslot, pending_concat, ho.pending]
  · intro past target future heq
    rcases concat_eq_append_cons heq with ⟨rfl, he, -⟩ | ⟨rest, -, hh⟩
    · exact (ho.pending target).mp (hpick target he.symm)
    · exact ho.picks past target rest hh
  · intro past future heq
    rcases concat_eq_append_cons heq with ⟨rfl, he, -⟩ | ⟨rest, -, hh⟩
    · intro target hp
      cases (hclose he.symm).symm.trans ((ho.pending target).mpr hp)
    · exact ho.closings past rest hh
  · rw [hending, Bool.or_eq_true, ho.ending]
    simp only [List.mem_append, List.mem_singleton, or_and_right, exists_or, exists_eq_left]
  · intro past e' future heq he'
    rcases concat_eq_append_cons heq with ⟨-, -, rfl⟩ | ⟨rest, rfl, rfl⟩
    · exact fun _ hnil => absurd hnil List.not_mem_nil
    · intro e'' he''
      rcases List.mem_append.mp he'' with he'' | he''
      · exact ho.last past e' rest rfl he' e'' he''
      · rw [List.mem_singleton.mp he'']
        refine Bool.eq_false_iff.mpr fun hl => ?_
        have hends := ho.ending.mpr ⟨e', by simp, he'⟩
        rw [hlook hl] at hends
        cases hends

theorem isEnding_pick (c : Controller) (target : Target) :
    (c.pick target).stage.isEnding = (Event.picked target).isEnd := by
  cases target with
  | none => rfl
  | some q =>
    unfold Controller.pick
    dsimp only
    split <;> rfl

theorem Orderly.turn? (ho : x.Orderly h) (ht : x.turn? p t = some y) :
    y.Orderly (h ++ (x.event? t).toList) := by
  have hturned := turned_of_turn? ht
  clear ht
  cases hturned with
  | idle _ _ he slot loop =>
    have hstage : y.controller.stage = x.controller.stage := congrArg (·.stage) loop
    rw [he, Option.toList_none, List.append_nil]
    exact ⟨slot ▸ ho.pending, ho.picks, ho.closings, hstage ▸ ho.ending, ho.last⟩
  -- The new request takes the place of whatever was pending.
  | accept target _ he hc =>
    rw [he]
    refine ho.concat (fun target' => ?_) (fun _ => nofun) nofun ?_ nofun
    · rw [hc]
      simp [Event.isMove, eq_comm]
    · rw [hc]
      simp [Event.isEnd]
  -- The look takes the pending request and leaves none.
  | pick m target he hs hslot _ hc =>
    rw [he]
    refine ho.concat (fun target' => ?_) (fun target' he' => ?_) nofun ?_ fun _ => ?_
    · rw [hc, Controller.slot_pick]
      simp [Event.isMove]
    · cases he'
      rw [hslot]
      rfl
    · rw [hc, isEnding_pick, hs]
      rfl
    · rw [hs]
      rfl
  | close m he hs hslot hh _ hc =>
    have hnone : x.controller.slot.pick? = none := if_neg (by simp [hslot])
    rw [he]
    refine ho.concat (fun target' => ?_) (fun _ => nofun) (fun _ => hnone) ?_ fun _ => ?_
    · rw [hc, Controller.slot_pick, hnone]
      simp [Event.isMove]
    · rw [hc, hs]
      rfl
    · rw [hs]
      rfl
  | move m he hu ht _ hm =>
    have hslot := Controller.slot_move? hm (fun target hr => by rw [hr] at hu; cases hu) ht
    rw [he]
    refine ho.concat (fun target' => ?_) (fun _ => nofun) nofun ?_ nofun
    · rw [hslot]
      simp [Event.isMove]
    · rw [Controller.isEnding_move? hm, ht]
      rfl

theorem Orderly.run? (ho : x.Orderly h) (hy : x.run? p turns = some y) :
    y.Orderly (h ++ x.history p turns) := by
  induction turns generalizing x h with
  | nil =>
    cases hy
    simpa [history] using ho
  | cons t rest ih =>
    obtain ⟨x', ht, hrest⟩ := run?_cons.mp hy
    rw [history_cons ht, ← List.append_assoc]
    exact ih (ho.turn? ht) hrest

theorem Orderly.unseen_eq_false_iff (ho : x.Orderly h) :
    x.controller.slot.unseen = false ↔ ∀ target, ¬ Pending h target := by
  simp only [← ho.pending]
  constructor
  · intro hslot target hp
    rw [Slot.pick?, if_neg (by simp [hslot])] at hp
    cases hp
  · exact fun h => Bool.eq_false_iff.mpr fun hslot => h _ (if_pos hslot)

/-- What is picked up in `h` are some of the accepted requests, in order, and a `Pending` one comes
after them. -/
theorem picked_sublist_accepted
    (hpicks : ∀ past target future, h = past ++ .picked target :: future → Pending past target) :
    (h.filterMap Event.picked?).Sublist (h.filterMap Event.accepted?) ∧
      ∀ target, Pending h target →
        (h.filterMap Event.picked? ++ [target]).Sublist (h.filterMap Event.accepted?) := by
  -- From the end, since `Pending` speaks of the last events. The second part carries the pending
  -- request to the look that takes it.
  induction h using List.reverseRecOn with
  | nil =>
    refine ⟨List.nil_sublist _, ?_⟩
    rintro target ⟨past, moves, heq, -⟩
    simp at heq
  | append_singleton h e ih =>
    obtain ⟨hsub, hpending⟩ := ih fun past target future heq =>
      hpicks past target (future ++ [e]) (by rw [heq]; simp)
    rw [List.filterMap_append, List.filterMap_append]
    simp only [pending_concat]
    cases e with
    | accepted target =>
      have hpicked : [Event.accepted target].filterMap Event.picked? = [] := rfl
      rw [hpicked, List.append_nil]
      refine ⟨hsub.trans (List.sublist_append_left ..), fun target' h' => ?_⟩
      rcases h' with h' | ⟨h', -⟩ <;> cases h'
      exact hsub.append (.refl [target])
    | picked target =>
      have haccepted : [Event.picked target].filterMap Event.accepted? = [] := rfl
      rw [haccepted, List.append_nil]
      refine ⟨hpending target (hpicks h target [] rfl), fun target' h' => ?_⟩
      rcases h' with h' | ⟨h', -⟩ <;> cases h'
    | closed =>
      refine ⟨hsub.append (List.nil_sublist []), fun target' h' => ?_⟩
      rcases h' with h' | ⟨h', -⟩ <;> cases h'
    | moved m =>
      have hpicked : [Event.moved m].filterMap Event.picked? = [] := rfl
      have haccepted : [Event.moved m].filterMap Event.accepted? = [] := rfl
      rw [hpicked, haccepted, List.append_nil, List.append_nil]
      refine ⟨hsub, fun target' h' => ?_⟩
      rcases h' with h' | ⟨-, h'⟩
      · cases h'
      · exact hpending target' h'

end Order

end Crowd

/-! ## What the events make of the loop -/

namespace Controller

/-- `c` after an event, with no regard to requests that are accepted. -/
def redo? (p : Platform) (c : Controller) : Crowd.Event → Option Controller
  | .accepted _ => some c
  | .picked target => if c.stage = .ready then some (c.pick target) else none
  | .closed => if c.stage = .ready then some (c.pick none) else none
  | .moved m => c.move? p m

/-- `c` after the events of `h`. -/
def redoAll? (p : Platform) (c : Controller) (h : List Crowd.Event) : Option Controller :=
  h.foldlM (redo? p) c

theorem redoAll?_append {p : Platform} (c : Controller) (h h' : List Crowd.Event) :
    c.redoAll? p (h ++ h') = (c.redoAll? p h).bind fun d => d.redoAll? p h' :=
  List.foldlM_append

/-- Requests that are accepted make nothing of the loop `c`. -/
theorem redoAll?_filter {p : Platform} (c : Controller) (h : List Crowd.Event) :
    c.redoAll? p (h.filter fun e => e.accepted?.isNone) = c.redoAll? p h := by
  induction h generalizing c with
  | nil => rfl
  | cons e h ih =>
    have hcons (c : Controller) (h : List Crowd.Event) :
        c.redoAll? p (e :: h) = (c.redo? p e).bind fun d => d.redoAll? p h := rfl
    cases e with
    | accepted target =>
      rw [List.filter_cons_of_neg (by simp [Crowd.Event.accepted?]), ih]
      rfl
    | picked | closed | moved =>
      rw [List.filter_cons_of_pos rfl, hcons, hcons]
      simp only [ih]

end Controller

namespace Crowd

open Controller (Move)

variable {p : Platform} {x y : Crowd} {t : Turn} {turns : List Turn}

theorem redo_turn? (ht : x.turn? p t = some y) :
    x.controller.loop.redoAll? p (x.event? t).toList = some y.controller.loop := by
  have single {c : Controller} {e : Event} : c.redoAll? p [e] = c.redo? p e :=
    bind_pure _
  have hturned := turned_of_turn? ht
  clear ht
  cases hturned with
  | idle _ _ he slot loop =>
    rw [he, loop]
    rfl
  | accept target _ he hc =>
    rw [he, hc]
    rfl
  | pick m target he hs hslot _ hc =>
    have hready : x.controller.loop.stage = .ready := hs
    rw [he, hc, Option.toList_some, single, Controller.redo?, if_pos hready,
      Controller.loop_pick]
  | close m he hs hslot hh _ hc =>
    have hready : x.controller.loop.stage = .ready := hs
    rw [he, hc, Option.toList_some, single, Controller.redo?, if_pos hready]
    exact congrArg some (Controller.loop_pick x.controller x.controller.slot none).symm
  | move m he hu ht _ hm =>
    rw [he, Option.toList_some, single]
    exact Controller.move?_with hm hu ht {} true

/-- The loop is what its looks and the other moves, in `x.history`, have made of it. -/
theorem redo_history (hy : x.run? p turns = some y) :
    x.controller.loop.redoAll? p (x.history p turns) = some y.controller.loop := by
  induction turns generalizing x with
  | nil =>
    cases hy
    rfl
  | cons t rest ih =>
    obtain ⟨x', ht, hrest⟩ := run?_cons.mp hy
    rw [history_cons ht, Controller.redoAll?_append, redo_turn? ht]
    exact ih hrest

end Crowd

end SplitTunnel
