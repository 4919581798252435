import SplitTunnel.Controller
import SplitTunnel.Proofs.Tunnel.Readers

/-!
# Runs of the control loop (`SPEC_FULL.md` §4.5 and §5)

The loop, the handles, the engine and the descriptors of the interfaces move in any order.

* `Controller.Move`, `Controller.move?`, `Controller.run?`: what happens, one by one.
* `Controller.pending?`, `Controller.picked`: what the loop picks up next, and in a run.
* `Controller.Moved`: the moves that can happen, and what each leaves.
* `Controller.Advance`: what a step of the loop does to the tunnel and to the stage;
  `Controller.Aside`: what everything else does.
* `Controller.kept_run?`: the placeholder is read, and no other interface is.
-/

namespace SplitTunnel

/-! ## Stages -/

namespace Stage

/-- The profile that has been picked up, until it has been set for the engine's recording. -/
def handling? : Stage → Option Profile
  | adopting q | blocking q | releasing (some q) | takingDown (some q) | inTakeDown (some q)
  | announcing q | preparing q => some q
  | _ => none

/-- The profile that has been picked up has not been set yet. -/
def isAdopting : Stage → Bool
  | adopting _ => true
  | _ => false

/-- The placeholder for what has been picked up has not been raised yet. -/
def isRaising : Stage → Bool
  | adopting _ | blocking _ => true
  | _ => false

/-- No connection is wanted any more. -/
def isEnding : Stage → Bool
  | releasing none | takingDown none | inTakeDown none | lowering | parting | leaving | stopped =>
    true
  | _ => false

theorem isAdopting_of_isRaising {s : Stage} (h : s.isRaising = false) : s.isAdopting = false := by
  cases s <;> first | rfl | cases h

end Stage

namespace Controller

/-! ## Moves -/

/-- Something that happens to a `Controller`. -/
inductive Move where
  | start
  | act (a : Action)
  /-- At the descriptor of `interface`. -/
  | descriptor (interface : Nat) (a : Drain.Action)
deriving DecidableEq, Repr

/-- `c` after a move, if it can happen. Nobody asks a reader to stop but its owner, in other moves.
-/
def move? (p : Platform) (c : Controller) : Move → Option Controller
  | .start => c.start?
  | .act a => c.step? p a
  | .descriptor i a =>
    if a = .requestStop then none
    else (c.tunnel.host.actAt? i a).map fun host => { c with tunnel := { c.tunnel with host } }

/-- `c` after moves in order, if they can happen. -/
def run? (p : Platform) (c : Controller) : List Move → Option Controller
  | [] => some c
  | m :: rest => (c.move? p m).bind fun c' => c'.run? p rest

/-- What `c` picks up with its next step: the request in the slot, or no connection if there is none
and nobody can make one. -/
def pending? (c : Controller) : Option Target :=
  if c.stage = .ready then c.slot.pick?.or (if c.handles then none else some none) else none

/-- What `c` picks up with a move. -/
def taken? (c : Controller) : Move → Option Target
  | .act (.advance _) => c.pending?
  | _ => none

/-- What the loop picks up in a run, in order. -/
def picked (p : Platform) (c : Controller) : List Move → List Target
  | [] => []
  | m :: rest => (c.taken? m).toList ++ ((c.move? p m).map fun c' => c'.picked p rest).getD []

/-- With the move the engine gets an interface for what has been recorded. -/
def establishes (p : Platform) (c : Controller) : Move → Bool
  | .act (.callback (.request .establish)) =>
    match (c.tunnel.serve p .establish).2 with
    | .up _ => true
    | _ => false
  | _ => false

/-- The move does not make a descriptor useless. -/
def Move.isHarmless : Move → Bool
  | .descriptor _ a => a.isTraffic
  | _ => true

/-- In the run no interface comes up for the engine, and the loop does not pick up that no
connection is wanted. -/
def Quiet (p : Platform) (c : Controller) : List Move → Prop
  | [] => True
  | m :: rest => c.establishes p m = false ∧ c.taken? m ≠ some none ∧
      ∀ c', c.move? p m = some c' → c'.Quiet p rest

variable {p : Platform} {c c' d : Controller} {m : Move} {moves rest : List Move}

theorem run?_cons : c.run? p (m :: rest) = some d ↔
    ∃ c', c.move? p m = some c' ∧ c'.run? p rest = some d := Option.bind_eq_some_iff

theorem picked_cons (h : c.move? p m = some c') (rest : List Move) :
    c.picked p (m :: rest) = (c.taken? m).toList ++ c'.picked p rest := by
  rw [picked, h]
  rfl

theorem taken?_eq_none (hs : c.stage ≠ .ready) (m : Move) : c.taken? m = none := by
  unfold taken?
  split
  · rw [pending?, if_neg hs]
  · rfl

/-- `c` picks up `target` with a step of its own, where it waits. -/
theorem ready_of_taken? {target : Target} (h : c.taken? m = some target) :
    c.stage = .ready ∧ ∃ up, m = .act (.advance up) ∧ c.pending? = some target := by
  unfold taken? at h
  split at h
  · next up =>
    refine ⟨?_, up, rfl, h⟩
    unfold pending? at h
    split at h
    · assumption
    · cases h
  · cases h

/-- A property `Inv` of the loop and of what it has picked up so far, which each move keeps, holds
after every run. -/
theorem run?_invariant {Inv : Controller → List Target → Prop}
    (hstep : ∀ {c c' m ts}, Inv c ts → c.move? p m = some c' →
      Inv c' (ts ++ (c.taken? m).toList))
    {ts : List Target} (hc : Inv c ts) (h : c.run? p moves = some d) :
    Inv d (ts ++ c.picked p moves) := by
  induction moves generalizing c ts with
  | nil =>
    cases h
    simpa [picked] using hc
  | cons m rest ih =>
    obtain ⟨c', hm, hrest⟩ := run?_cons.mp h
    rw [picked_cons hm, ← List.append_assoc]
    exact ih (hstep hc hm) hrest

/-! ## What a move does -/

/-- What a step of the loop from `c` to `c'` does to the tunnel and to the stage. -/
inductive Advance (p : Platform) (c c' : Controller) : Prop where
  | look (target : Target) (hs : c.stage = .ready) (ht : c.pending? = some target)
      (stage : c'.stage = (c.pick target).stage) (tunnel : c'.tunnel = c.tunnel)
      (calls : c'.calls = c.calls)
  | adopt (q : Profile) (hs : c.stage = .adopting q) (stage : c'.stage = .blocking q)
      (tunnel : c'.tunnel = (c.tunnel.setProfile q).1) (calls : c'.calls = c.calls)
  | block (q : Profile) (hs : c.stage = .blocking q) (stage : c'.stage = .releasing (some q))
      (tunnel : c'.tunnel = (c.tunnel.raisePlaceholder p).1) (calls : c'.calls = c.calls)
  | lower (hs : c.stage = .lowering) (stage : c'.stage = .parting)
      (tunnel : c'.tunnel = c.tunnel.lowerPlaceholder)
  | prepare (q : Profile) (hs : c.stage = .preparing q)
      (stage : c'.stage = .bringingUp q ∨ c'.stage = .failing)
      (tunnel : c'.tunnel = (c.tunnel.setProfile q).1)
  /-- The tunnel is left alone, and nothing new is picked up. -/
  | pass (hs : c.stage ≠ .ready) (handling : c'.stage.handling? = c.stage.handling?)
      (raising : c.stage.isRaising = false ∧ c'.stage.isRaising = false)
      (ending : c'.stage.isEnding = c.stage.isEnding) (tunnel : c'.tunnel = c.tunnel)

/-- What a move `m` that is not the loop's does: if it does not bring up an interface for the
engine, the placeholder is left alone, unless `m` happens at the descriptor. -/
structure Aside (p : Platform) (m : Move) (c c' : Controller) : Prop where
  stage : c'.stage = c.stage
  calls : c'.calls = c.calls
  profile : c.tunnel.SameProfile c'.tunnel
  placeholder : c.establishes p m = false → c.tunnel.KeepsPlaceholder c'.tunnel ∨
    ∃ i a host, m = .descriptor i a ∧ a ≠ .requestStop ∧
      c.tunnel.host.actAt? i a = some host ∧ c'.tunnel = { c.tunnel with host }

theorem Aside.of_spares (stage : c'.stage = c.stage) (calls : c'.calls = c.calls)
    (h : c.tunnel.Spares c'.tunnel) : Aside p m c c' :=
  ⟨stage, calls, h.profile, fun _ => .inl h.placeholder⟩

theorem tunnel_pick (c : Controller) (target : Target) : (c.pick target).tunnel = c.tunnel := by
  unfold pick
  split
  · split <;> rfl
  · rfl

theorem calls_pick (c : Controller) (target : Target) : (c.pick target).calls = c.calls := by
  unfold pick
  split
  · split <;> rfl
  · rfl

theorem stage_pick (c : Controller) (slot : Slot) (target : Target) :
    (({ c with slot } : Controller).pick target).stage = (c.pick target).stage := by
  unfold pick
  split
  · dsimp only
    split <;> rfl
  · rfl

theorem look?_eq_some (hs : c.stage = .ready) (h : c.look? = some c') :
    ∃ target, c.pending? = some target ∧
      ∃ slot, c' = ({ c with slot } : Controller).pick target := by
  rw [pending?, if_pos hs]
  unfold look? at h
  split at h
  · next target ht =>
    cases h
    exact ⟨target, by rw [ht]; rfl, _, rfl⟩
  · next ht =>
    split at h <;> cases h
    next hh => exact ⟨none, by rw [ht, if_neg hh]; rfl, c.slot, rfl⟩

theorem Advance.of_stages {s s' : Stage} (hs : c.stage = s) (hs' : c'.stage = s')
    (tunnel : c'.tunnel = c.tunnel) (ready : s ≠ .ready)
    (handling : s'.handling? = s.handling?) (raising : s.isRaising = false ∧ s'.isRaising = false)
    (ending : s'.isEnding = s.isEnding) : Advance p c c' := by
  subst hs hs'
  exact .pass ready handling raising ending tunnel

theorem advance_of_advance? {up : Bool} (h : c.advance? p up = some c') : Advance p c c' := by
  unfold advance? at h
  split at h
  case h_1 | h_2 => cases h
  case h_3 hs =>
    obtain ⟨target, ht, slot, rfl⟩ := look?_eq_some hs h
    exact .look target hs ht (stage_pick c slot target) (tunnel_pick ..) (calls_pick ..)
  case h_4 q hs =>
    cases h
    exact .adopt q hs rfl rfl rfl
  case h_5 q hs =>
    cases h
    exact .block q hs rfl rfl rfl
  case h_9 hs =>
    cases h
    exact .lower hs rfl rfl
  case h_13 q hs =>
    split at h
    · next tunnel he =>
      cases h
      exact .prepare q hs (.inl rfl) (by rw [he]; rfl)
    · next tunnel e he =>
      cases h
      exact .prepare q hs (.inr rfl) (by rw [he]; rfl)
  case h_6 next hs =>
    split at h <;> cases h <;> cases next <;> exact .of_stages hs rfl rfl nofun rfl ⟨rfl, rfl⟩ rfl
  case h_7 next hs | h_8 next hs =>
    cases h
    cases next <;> exact .of_stages hs rfl rfl nofun rfl ⟨rfl, rfl⟩ rfl
  case h_15 q hs | h_16 q hs =>
    split at h <;> cases h <;> exact .of_stages hs rfl rfl nofun rfl ⟨rfl, rfl⟩ rfl
  all_goals
    next hs =>
    cases h
    exact .of_stages hs rfl rfl nofun rfl ⟨rfl, rfl⟩ rfl

theorem aside_callback (p : Platform) (c : Controller) (b : Callback) :
    Aside p (.act (.callback b)) c (c.callback p b).1 := by
  cases b with
  | updateStatus code => exact .of_spares rfl rfl (.refl _)
  | request r =>
    refine ⟨rfl, rfl, Tunnel.sameProfile_serve p c.tunnel r, fun h => .inl ?_⟩
    refine Tunnel.keepsPlaceholder_serve fun i hr hup => ?_
    subst hr
    simp [establishes, hup] at h

/-- A move that can happen, and what it leaves of `c`. -/
inductive Moved (p : Platform) (c : Controller) : Move → Controller → Prop where
  | start (hs : c.stage = .created) : Moved p c .start (c.goTo .ready)
  | request (target : Target) (hh : c.handles = true) (ho : c.isOpen = true) :
      Moved p c (.act (.request target)) { c with slot := c.slot.send target }
  | dropHandles : Moved p c (.act .dropHandles) c.dropHandles
  | callback (b : Callback) : Moved p c (.act (.callback b)) (c.callback p b).1
  | advance (up : Bool) (c' : Controller) (ha : c.advance? p up = some c') :
      Moved p c (.act (.advance up)) c'
  | descriptor (i : Nat) (a : Drain.Action) (host : Host) (ha : a ≠ .requestStop)
      (hh : c.tunnel.host.actAt? i a = some host) :
      Moved p c (.descriptor i a) { c with tunnel := { c.tunnel with host } }

theorem moved_of_move? (h : c.move? p m = some c') : Moved p c m c' := by
  cases m with
  | start =>
    rw [move?, start?] at h
    split at h <;> cases h
    next hs => exact .start hs
  | act a =>
    cases a with
    | advance up => exact .advance up c' h
    | request target =>
      rw [move?, step?, request?] at h
      split at h <;> cases h
      next hopen =>
      obtain ⟨hh, ho⟩ := Bool.and_eq_true_iff.mp hopen
      exact .request target hh ho
    | dropHandles =>
      cases h
      exact .dropHandles
    | callback b =>
      cases h
      exact .callback b
  | descriptor i a =>
    rw [move?] at h
    split at h
    · cases h
    · next ha =>
      obtain ⟨host, hh, rfl⟩ := Option.map_eq_some_iff.mp h
      exact .descriptor i a host ha hh

/-- A move `m` is a step of the loop, its start, or leaves the loop where it is. -/
theorem move?_cases (h : c.move? p m = some c') :
    (∃ up, m = .act (.advance up) ∧ Advance p c c') ∨
    (m = .start ∧ c.stage = .created ∧ c' = c.goTo .ready) ∨
    (c.taken? m = none ∧ Aside p m c c') := by
  cases moved_of_move? h with
  | start hs => exact .inr (.inl ⟨rfl, hs, rfl⟩)
  | advance up _ ha => exact .inl ⟨up, rfl, advance_of_advance? ha⟩
  | request target => exact .inr (.inr ⟨rfl, .of_spares rfl rfl (.refl _)⟩)
  | dropHandles => exact .inr (.inr ⟨rfl, .of_spares rfl rfl (.refl _)⟩)
  | callback b => exact .inr (.inr ⟨rfl, aside_callback p c b⟩)
  | descriptor i a host ha hh =>
    refine .inr (.inr ⟨rfl, rfl, rfl, ⟨rfl, rfl, rfl⟩, fun _ => .inr ?_⟩)
    exact ⟨i, a, host, rfl, ha, hh, rfl⟩

/-! ## The end -/

/-- The loop is ending once it has picked up `none`, that no connection is wanted. -/
theorem isEnding_move? (hm : c.move? p m = some c') :
    c'.stage.isEnding = (c.stage.isEnding || c.taken? m == some none) := by
  have hnone (hs : c.stage ≠ .ready) : (c.taken? m == some none) = false := by
    rw [taken?_eq_none hs]
    rfl
  rcases move?_cases hm with ⟨up, rfl, ha⟩ | ⟨rfl, hs, rfl⟩ | ⟨ht, ha⟩
  · cases ha with
    | look target hs htarget stage =>
      rw [taken?, htarget, stage, hs]
      cases target with
      | none => rfl
      | some q =>
        rw [pick]
        split <;> rfl
    | adopt q hs stage => rw [hnone (by simp [hs]), hs, stage]; rfl
    | block q hs stage => rw [hnone (by simp [hs]), hs, stage]; rfl
    | lower hs stage => rw [hnone (by simp [hs]), hs, stage]; rfl
    | prepare q hs stage =>
      rw [hnone (by simp [hs]), hs]
      rcases stage with stage | stage <;> rw [stage] <;> rfl
    | pass hs handling raising ending => rw [hnone hs, ending, Bool.or_false]
  · rw [hs]
    rfl
  · rw [ha.stage, ht]
    simp

/-- A loop that is ending picks nothing up any more. -/
theorem taken?_of_isEnding (h : c.stage.isEnding = true) (m : Move) : c.taken? m = none := by
  refine taken?_eq_none (fun hs => ?_) m
  rw [hs] at h
  cases h

/-! ## Readers -/

/-- A callback `b` ends the placeholder if the engine gets an interface for what has been recorded.
-/
theorem placeholder_callback (p : Platform) (c : Controller) (b : Callback) :
    (c.callback p b).1.tunnel.placeholder =
      if c.establishes p (.act (.callback b)) then none else c.tunnel.placeholder := by
  cases b with
  | updateStatus code => rfl
  | request r =>
    by_cases hr : r = .establish
    · subst hr
      have hplaceholder := Tunnel.placeholder_establish p c.tunnel
      show (Tunnel.came _).1.placeholder = _
      rw [Tunnel.fst_came, hplaceholder, establishes, Tunnel.serve]
      rcases c.tunnel.establish p with ⟨t, e | i⟩ <;> rfl
    · have hsame := Tunnel.sameReaders_serve p c.tunnel hr
      rw [if_neg]
      · exact hsame.placeholder
      · cases r <;> first | exact Bool.false_ne_true | exact absurd rfl hr

variable {works : Prop}

/-- Whatever `m` is, the placeholder is read, and nothing else is. -/
theorem kept_move? (h : c.tunnel.Kept works) (hw : works → m.isHarmless = true)
    (hm : c.move? p m = some c') : c'.tunnel.Kept works := by
  cases moved_of_move? hm with
  | start hs => exact h
  | request target => exact h
  | dropHandles => exact h
  | callback b =>
    cases b with
    | updateStatus code => exact h
    | request r => exact h.serve p r
  | advance up c' ha =>
    have ha' : Advance p c c' := advance_of_advance? ha
    cases ha' with
    | look target hs ht stage tunnel calls => rwa [tunnel]
    | adopt q hs stage tunnel calls =>
      rw [tunnel]
      exact h.setProfile q
    | block q hs stage tunnel calls =>
      rw [tunnel]
      exact h.raisePlaceholder p fun _ => id
    | lower hs stage tunnel =>
      rw [tunnel]
      exact h.lowerPlaceholder
    | prepare q hs stage tunnel =>
      rw [tunnel]
      exact h.setProfile q
    | pass hs handling raising ending tunnel => rwa [tunnel]
  | descriptor i a host ha hh => exact h.actAt? ha hw hh

theorem kept_run? (h : c.tunnel.Kept works) (hw : works → ∀ m ∈ moves, m.isHarmless = true)
    (hd : c.run? p moves = some d) : d.tunnel.Kept works := by
  induction moves generalizing c with
  | nil =>
    cases hd
    exact h
  | cons m rest ih =>
    obtain ⟨c', hm, hrest⟩ := run?_cons.mp hd
    have hm' : works → m.isHarmless = true := fun hworks => hw hworks m (List.mem_cons_self ..)
    exact ih (kept_move? h hm' hm)
      (fun hworks n hn => hw hworks n (List.mem_cons_of_mem m hn)) hrest

end Controller

end SplitTunnel
