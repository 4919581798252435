import SplitTunnel.Proofs.Controller.Engine
import Mathlib.Data.List.ModifyLast

/-!
# What the loop does, in order (`SPEC_FULL.md` §4.5, the control loop)

The loop does two things that others see: it calls the engine and it publishes states. Each request
that it picks up makes a round of such deeds.

* `Controller.deed?`, `Controller.gather`: what the loop does with a move, and in a run.
* `Controller.calls_run?`: the deeds of a run have its calls.
* `ServiceConfig.opening`, `ServiceConfig.aftermath`, `Round.deeds`: the deeds of a round, which are
  settled when the request is picked up and when the engine answers.
* `Controller.duty`: the deeds of the rounds so far that have still to be done.
* `Controller.Chronicled`: the deeds so far and those still to be done are those of the rounds.
-/

namespace SplitTunnel

/-! ## Deeds -/

/-- Something that the loop does and others see. -/
inductive Deed where
  | call (e : EngineCall)
  | report (s : VpnState)
deriving DecidableEq, Repr

namespace Deed

/-- The call of the engine that the `Deed` is. -/
def call? : Deed → Option EngineCall
  | call e => some e
  | report _ => none

/-- The state that the `Deed` publishes. -/
def report? : Deed → Option VpnState
  | call _ => none
  | report s => some s

end Deed

namespace ServiceConfig

/-- The call that brings the engine up. -/
def bringUp (config : ServiceConfig) : EngineCall :=
  .bringUp config.logPath config.dataDir config.byod

/-- The call that tells the engine to negotiate for `q`. -/
def negotiate (config : ServiceConfig) (q : Profile) : EngineCall :=
  .negotiate (Settings.ofProfile q config.language).text

/-- How an attempt with `q` goes on once it has been announced. -/
def trial (config : ServiceConfig) (q : Profile) : List Deed :=
  if q.isReadable then [.call config.bringUp] else [.report .error]

/-- What a request leads to, if the engine is still up (`wasUp`) or not: a connection that ends is
taken down, and this is published only if no other one follows. Then an attempt is announced, or the
end is. -/
def opening (config : ServiceConfig) (wasUp : Bool) : Target → List Deed
  | some q =>
    (if wasUp then [.call .takeDown] else []) ++ .report .connecting :: config.trial q
  | none =>
    (if wasUp then [.report .disconnecting, .call .takeDown] else []) ++ [.report .disconnected]

/-- What the engine's answer `up` leads to. -/
def aftermath (config : ServiceConfig) (q : Profile) (up : Bool) : List Deed :=
  if up && !q.isMissingPassword then [.call (config.negotiate q)] else [.report .error]

end ServiceConfig

/-- What the loop makes of one request. -/
structure Round where
  target : Target
  /-- Whether the engine came up, once it has answered. -/
  answer : Option Bool := none
deriving DecidableEq, Repr

namespace Round

/-- The deeds of `r`, if the engine was up before it (`wasUp`) or not. -/
def deeds (config : ServiceConfig) (wasUp : Bool) (r : Round) : List Deed :=
  config.opening wasUp r.target ++
    match r.target, r.answer with
    | some q, some up => config.aftermath q up
    | _, _ => []

/-- The engine came up in `r`. -/
def isUp (r : Round) : Bool := r.answer == some true

/-- The engine has answered in `r`, or is not asked. -/
def isSettled (r : Round) : Bool := r.answer.isSome == r.target.any Profile.isReadable

/-- `rounds` once something has been `taken`, or the engine has answered for the last one. -/
def after (rounds : List Round) (taken : Option Target) : Option Bool → List Round
  | some up => rounds.modifyLast fun r => { r with answer := some up }
  | none => rounds ++ taken.toList.map fun target => { target }

@[simp] theorem after_none (rounds : List Round) : after rounds none none = rounds :=
  List.append_nil _

/-- After `rounds` the engine is up. -/
def lastUp (rounds : List Round) : Bool := rounds.getLast?.any isUp

/-- The deeds of rounds, one after another. -/
def chronicle (config : ServiceConfig) : Bool → List Round → List Deed
  | _, [] => []
  | wasUp, r :: rest => r.deeds config wasUp ++ chronicle config r.isUp rest

theorem chronicle_concat (config : ServiceConfig) (wasUp : Bool) (past : List Round) (r : Round) :
    chronicle config wasUp (past ++ [r]) = chronicle config wasUp past ++
      r.deeds config ((past.getLast?.map isUp).getD wasUp) := by
  induction past generalizing wasUp with
  | nil => simp [chronicle]
  | cons s past ih =>
    rw [List.cons_append, chronicle, ih s.isUp, chronicle, List.append_assoc]
    cases past with
    | nil => rfl
    | cons t past =>
      obtain ⟨l, hl⟩ := Option.isSome_iff_exists.mp
        (show ((t :: past).getLast?).isSome = true by simp)
      simp only [List.getLast?_cons_cons, hl, Option.map_some, Option.getD_some]

theorem chronicle_concat_lastUp (config : ServiceConfig) (past : List Round) (r : Round) :
    chronicle config false (past ++ [r]) =
      chronicle config false past ++ r.deeds config (lastUp past) := by
  rw [chronicle_concat, lastUp]
  cases past.getLast? <;> rfl

theorem forall_isSettled_concat {past : List Round} {r : Round}
    (hpast : ∀ s ∈ past, s.isSettled = true) (hr : r.isSettled = true) :
    ∀ s ∈ past ++ [r], s.isSettled = true := by
  intro s hs
  rcases List.mem_append.mp hs with hs | hs
  · exact hpast s hs
  · rw [List.mem_singleton.mp hs]
    exact hr

end Round

namespace Stage

theorem trying?_of_handling? {s : Stage} {q : Profile} (h : s.handling? = some q) :
    s.trying? = some q := by
  unfold handling? at h
  split at h <;> first | exact h | cases h

theorem isDown_or_handling? {s : Stage} {q : Profile} (h : s.trying? = some q) :
    s.isDown = true ∨ s.handling? = some q := by
  unfold trying? at h
  split at h <;> first | exact .inl rfl | exact .inr h | cases h

theorem isEnding_of_trying? {s : Stage} {q : Profile} (h : s.trying? = some q) :
    s.isEnding = false := by
  unfold trying? at h
  split at h <;> first | rfl | cases h

end Stage

/-- The deeds of what has been picked up that have still to be done at a `Stage`. -/
@[simp] def Stage.duty (config : ServiceConfig) (wasUp : Bool) : Stage → List Deed
  | adopting q | blocking q => config.opening wasUp (some q)
  | releasing target => config.opening wasUp target
  | takingDown target => .call .takeDown :: config.opening false target
  | inTakeDown target => config.opening false target
  | lowering | parting => config.opening false none
  | announcing q => config.opening false (some q)
  | preparing q => config.trial q
  | bringingUp _ => [.call config.bringUp]
  | checking q => config.aftermath q true
  | failing => [.report .error]
  | created | ready | inBringUp _ | inNegotiate | leaving | stopped => []

namespace Controller

variable {α : Type} {p : Platform} {c c' d : Controller} {m : Move} {moves : List Move}

/-- What the loop does with a move. -/
def deed? (c : Controller) : Move → Option Deed
  | .act (.advance _) =>
    match c.stage with
    | .releasing none => if c.current.isSome then some (.report .disconnecting) else none
    | .takingDown _ => some (.call .takeDown)
    | .parting => some (.report .disconnected)
    | .announcing _ => some (.report .connecting)
    | .bringingUp _ => some (.call c.config.bringUp)
    | .checking q => if q.isMissingPassword then none else some (.call (c.config.negotiate q))
    | .failing => some (.report .error)
    | _ => none
  | _ => none

/-- The deeds of what `c` has picked up that have still to be done. -/
def duty (c : Controller) : List Deed := c.stage.duty c.config c.current.isSome

/-- What a run shows of its moves, in order, as `shows?` tells. -/
def gather (shows? : Controller → Move → Option α) (p : Platform) (c : Controller) :
    List Move → List α
  | [] => []
  | m :: rest => (shows? c m).toList ++
      ((c.move? p m).map fun c' => c'.gather shows? p rest).getD []

theorem gather_cons {shows? : Controller → Move → Option α} (h : c.move? p m = some c')
    (rest : List Move) :
    c.gather shows? p (m :: rest) = (shows? c m).toList ++ c'.gather shows? p rest := by
  rw [gather, h]
  rfl

/-- What the loop does in a run of `moves`, in order. -/
def deeds (p : Platform) (c : Controller) (moves : List Move) : List Deed :=
  c.gather deed? p moves

theorem deeds_cons (h : c.move? p m = some c') (rest : List Move) :
    c.deeds p (m :: rest) = (c.deed? m).toList ++ c'.deeds p rest := gather_cons h rest

/-- What a deed leaves of calls and of states between `c` and `c'`. -/
structure Does (c c' : Controller) (deed : Option Deed) : Prop where
  calls : c'.calls = c.calls ++ (deed.bind Deed.call?).toList
  status : c'.status = (deed.bind Deed.report?).toList.foldl StatusFeed.report c.status
  config : c'.config = c.config

theorem Does.nothing (calls : c'.calls = c.calls) (status : c'.status = c.status)
    (config : c'.config = c.config) : Does c c' none := by
  refine ⟨?_, status, config⟩
  rw [calls]
  exact (List.append_nil _).symm

theorem Does.a_call {e : EngineCall} (calls : c'.calls = c.calls ++ [e])
    (status : c'.status = c.status) (config : c'.config = c.config) :
    Does c c' (some (.call e)) := ⟨calls, status, config⟩

theorem Does.a_report {s : VpnState} (calls : c'.calls = c.calls)
    (status : c'.status = c.status.report s) (config : c'.config = c.config) :
    Does c c' (some (.report s)) := by
  refine ⟨?_, status, config⟩
  rw [calls]
  exact (List.append_nil _).symm

theorem does_pick (c : Controller) (slot : Slot) (target : Target) :
    Does c (({ c with slot } : Controller).pick target) none := by
  unfold pick
  split
  · split <;> exact .nothing rfl rfl rfl
  · exact .nothing rfl rfl rfl

/-- `advance?` does the deed of the loop's step. -/
theorem does_advance? {up : Bool} (ha : c.advance? p up = some c') :
    Does c c' (c.deed? (.act (.advance up))) := by
  unfold advance? at ha
  unfold deed?
  split at ha
  case h_1 hs | h_2 hs => cases ha
  case h_3 hs =>
    obtain ⟨target, -, slot, rfl⟩ := look?_eq_some hs ha
    rw [hs]
    exact does_pick c slot target
  -- Only the last connection is reported to end: one that is replaced goes without a word.
  case h_6 next hs =>
    rw [hs]
    split at ha <;> cases ha
    · next hcurrent =>
      cases next
      · rw [hcurrent]
        exact .nothing rfl rfl rfl
      · exact .nothing rfl rfl rfl
    · next v hcurrent =>
      cases next
      · rw [hcurrent]
        show Does c _ (some (.report .disconnecting))
        exact .a_report rfl rfl rfl
      · exact .nothing rfl rfl rfl
  case h_7 hs =>
    cases ha
    rw [hs]
    exact .a_call rfl rfl rfl
  case h_10 hs | h_12 hs | h_18 hs =>
    cases ha
    rw [hs]
    exact .a_report rfl rfl rfl
  case h_13 q hs =>
    rw [hs]
    split at ha <;> cases ha <;> exact .nothing rfl rfl rfl
  case h_14 q hs =>
    cases ha
    rw [hs]
    exact .a_call rfl rfl rfl
  case h_15 q hs =>
    rw [hs]
    split at ha <;> cases ha <;> exact .nothing rfl rfl rfl
  case h_16 q hs =>
    rw [hs]
    split at ha <;> cases ha
    · next hmissing =>
      simp only [hmissing, if_true]
      exact .nothing rfl rfl rfl
    · next hmissing =>
      simp only [hmissing]
      exact .a_call rfl rfl rfl
  all_goals
    next hs =>
    cases ha
    rw [hs]
    exact .nothing rfl rfl rfl

/-- A move `m` without a deed calls nobody. -/
theorem calls_move? (hm : c.move? p m = some c') :
    c'.calls = c.calls ++ ((c.deed? m).bind Deed.call?).toList ∧ c'.config = c.config := by
  cases moved_of_move? hm with
  | advance up _ ha =>
    have hdoes := does_advance? ha
    exact ⟨hdoes.calls, hdoes.config⟩
  | callback b => cases b <;> exact ⟨(List.append_nil _).symm, rfl⟩
  | start | request | dropHandles | descriptor => exact ⟨(List.append_nil _).symm, rfl⟩

/-- The deeds of a run have its calls. -/
theorem calls_run? (hd : c.run? p moves = some d) :
    d.calls = c.calls ++ (c.deeds p moves).filterMap Deed.call? := by
  induction moves generalizing c with
  | nil =>
    cases hd
    exact (List.append_nil _).symm
  | cons m rest ih =>
    obtain ⟨c', hm, hrest⟩ := run?_cons.mp hd
    rw [deeds_cons hm, ih hrest, (calls_move? hm).1, List.append_assoc,
      List.filterMap_append]
    cases c.deed? m with
    | none => rfl
    | some deed => cases deed <;> rfl

/-! ## What is still to be done -/

theorem duty_eq {s : Stage} (hs : c.stage = s) : c.duty = s.duty c.config c.current.isSome := by
  rw [duty, hs]

/-- Picking up `target` makes what it leads to the loop's duty. -/
theorem duty_of_pick {target : Target} (ht : c.taken? m = some target)
    (hm : c.move? p m = some c') :
    c.duty = [] ∧ c.deed? m = none ∧ c'.duty = c.config.opening c.current.isSome target := by
  obtain ⟨hs, up, rfl, hpending⟩ := ready_of_taken? ht
  refine ⟨duty_eq hs, by rw [deed?, hs], ?_⟩
  have hlook : c.look? = some c' := by
    rw [← hm, move?, step?, advance?, hs]
  obtain ⟨target', ht', slot, rfl⟩ := look?_eq_some hs hlook
  cases hpending.symm.trans ht'
  unfold pick
  split
  · split <;> rfl
  · rfl

/-- The engine's answer `up` makes what it leads to the loop's duty. -/
theorem duty_of_answer {q : Profile} {up : Bool} (ha : c.answered? m = some up)
    (hq : c.stage.trying? = some q) (hm : c.move? p m = some c') :
    c.duty = [] ∧ c.deed? m = none ∧ c'.duty = c.config.aftermath q up := by
  unfold answered? at ha
  split at ha
  · next up' =>
    obtain ⟨q', hasked, rfl⟩ := Option.map_eq_some_iff.mp ha
    have hs : c.stage = .inBringUp q := by
      unfold Stage.asked? at hasked
      split at hasked
      · next hs =>
        rw [hs] at hq
        cases hq
        exact hs
      · cases hasked
    refine ⟨duty_eq hs, by rw [deed?, hs], ?_⟩
    rw [move?, step?, advance?, hs] at hm
    dsimp only at hm
    split at hm <;> cases hm
    · next hup =>
      rw [hup]
      rfl
    · next hup =>
      rw [Bool.eq_false_iff.mpr hup]
      rfl
  · cases ha

/-- Where nothing begins, the loop does the first of the deeds of `s` that are still to be done, or
none. -/
theorem duty_of_advance {s s' : Stage} {up : Bool} (hs : c.stage = s) (hs' : c'.stage = s')
    (hconfig : c'.config = c.config)
    (hduty : s.duty c.config c.current.isSome =
      (c.deed? (.act (.advance up))).toList ++ s'.duty c.config c'.current.isSome) :
    c.duty = (c.deed? (.act (.advance up))).toList ++ c'.duty := by
  rw [duty_eq hs, duty_eq hs', hduty, hconfig]

/-- A move `m` by which nothing is picked up and nothing answered leaves the rest of the loop's
duty. -/
theorem duty_of_pass (ht : c.taken? m = none) (ha : c.answered? m = none)
    (hm : c.move? p m = some c') : c.duty = (c.deed? m).toList ++ c'.duty := by
  cases moved_of_move? hm with
  | start hs => rw [duty_eq hs]; rfl
  | request | dropHandles | descriptor => rfl
  | callback b => cases b <;> rfl
  | advance up _ hadv =>
    unfold advance? at hadv
    split at hadv
    case h_1 | h_2 => cases hadv
    case h_3 hs =>
      obtain ⟨target, hpending, -⟩ := look?_eq_some hs hadv
      cases ht.symm.trans hpending
    case h_15 q hs =>
      rw [answered?, hs] at ha
      cases ha
    -- Here it shows whether the subnets can be read, which the duty says already.
    case h_13 q hs =>
      have hok := c.tunnel.isOk_setProfile q
      split at hadv
      · next tunnel he =>
        have hreadable : q.isReadable = true := by
          rw [← hok, he]
          rfl
        cases hadv
        refine duty_of_advance hs (show _ = Stage.bringingUp q from rfl) rfl ?_
        rw [deed?, hs]
        simp [ServiceConfig.trial, hreadable]
      · next tunnel e he =>
        have hunreadable : q.isReadable = false := by
          rw [← hok, he]
          rfl
        cases hadv
        refine duty_of_advance hs (show _ = Stage.failing from rfl) rfl ?_
        rw [deed?, hs]
        simp [ServiceConfig.trial, hunreadable]
    case h_6 next hs =>
      split at hadv <;> rename_i hcurrent <;> cases hadv <;> cases next <;>
        refine duty_of_advance hs rfl rfl ?_ <;> rw [deed?, hs, hcurrent] <;> rfl
    case h_16 q hs =>
      split at hadv
      · next hmissing =>
        cases hadv
        refine duty_of_advance hs (show _ = Stage.failing from rfl) rfl ?_
        rw [deed?, hs]
        simp [ServiceConfig.aftermath, hmissing]
      · next hmissing =>
        cases hadv
        refine duty_of_advance hs (show _ = Stage.inNegotiate from rfl) rfl ?_
        rw [deed?, hs]
        simp [ServiceConfig.aftermath, hmissing]
    case h_8 next hs =>
      cases hadv
      cases next <;> refine duty_of_advance hs rfl rfl ?_ <;> rw [deed?, hs] <;> rfl
    all_goals
      next hs =>
      cases hadv
      refine duty_of_advance hs rfl rfl ?_
      rw [deed?, hs]
      rfl

/-! ## Rounds -/

/-- The engine that is `current` stays up until the loop takes it down. -/
theorem Placed.current_move? (h : c.Placed) (hm : c.move? p m = some c')
    (hdown : c'.stage.isTakingDown = false) :
    c'.current.isSome = (c.answered? m).getD c.current.isSome := by
  cases moved_of_move? hm with
  | start | request | dropHandles | descriptor => rfl
  | callback b => cases b <;> rfl
  | advance up _ ha =>
    unfold advance? at ha
    split at ha
    case h_1 | h_2 => cases ha
    case h_3 hs =>
      obtain ⟨target, -, slot, rfl⟩ := look?_eq_some hs ha
      rw [answered?, hs]
      unfold pick
      split
      · split <;> rfl
      · rfl
    case h_6 next hs =>
      split at ha <;> cases ha
      · rw [answered?, hs]
        rfl
      -- The engine is let go on the way to its being taken down, which `hdown` rules out.
      · cases hdown
    case h_13 q hs | h_16 q hs =>
      rw [answered?, hs]
      split at ha <;> cases ha <;> rfl
    case h_15 q hs =>
      have hnone := h.down (by rw [hs]; rfl)
      rw [answered?, hs]
      split at ha <;> cases ha
      · next hup =>
        rw [hup]
        rfl
      · next hup =>
        rw [Bool.eq_false_iff.mpr hup]
        show c.current.isSome = false
        rw [hnone]
        rfl
    all_goals
      next hs =>
      cases ha
      rw [answered?, hs]
      rfl

/-- When it is known whether the engine is up for `q`, the one before it has been taken down. -/
theorem Placed.current_of_tried (h : c.Placed) {q : Profile} (before : c.stage.trying? = some q)
    (after : c'.stage.trying? = none) (hm : c.move? p m = some c') : c.current = none := by
  apply h.down
  rcases move?_cases hm with ⟨up, rfl, ha⟩ | ⟨rfl, hs, rfl⟩ | ⟨-, ha⟩
  · cases ha with
    | look target hs =>
      rw [hs] at before
      cases before
    | adopt v hs stage =>
      rw [stage] at after
      cases after
    | block v hs stage =>
      rw [stage] at after
      cases after
    | lower hs =>
      rw [hs] at before
      cases before
    | prepare v hs =>
      rw [hs]
      rfl
    | pass hs handling =>
      refine (Stage.isDown_or_handling? before).resolve_right fun hq => ?_
      cases after.symm.trans (Stage.trying?_of_handling? (handling.trans hq))
  · rw [hs] at before
    cases before
  · rw [ha.stage, before] at after
    cases after

/-- The `rounds` of a run. Only the last one may still be open, and then the loop is about it. -/
structure Chronicled (c : Controller) (done : List Deed) (targets : List Target)
    (answers : List Bool) (rounds : List Round) : Prop where
  targets : rounds.map Round.target = targets
  answers : rounds.filterMap Round.answer = answers
  deeds : done ++ c.duty = Round.chronicle c.config false rounds
  up : c.stage.trying? = none → c.stage.isEnding = false →
    c.current.isSome = Round.lastUp rounds
  settled : c.stage.trying? = none → ∀ r ∈ rounds, r.isSettled = true
  last : ∀ q, c.stage.trying? = some q → ∃ past, rounds = past ++ [⟨some q, none⟩] ∧
    ∀ r ∈ past, r.isSettled = true
  ended : c.stage.isEnding = true → rounds.getLast? = some { target := none }

theorem chronicled_create (config : ServiceConfig) (supported : Capabilities) :
    Chronicled (create config supported) [] [] [] [] :=
  ⟨rfl, rfl, rfl, fun _ _ => rfl, fun _ _ => nofun, fun _ => nofun, nofun⟩

variable {done : List Deed} {targets : List Target} {answers : List Bool} {rounds : List Round}

/-- Once it is known whether the engine is up, it stays so until the loop ends or picks something
up. -/
theorem Placed.current_of_known (h : c.Placed) (hm : c.move? p m = some c')
    (htrying : c'.stage.trying? = none) (hending : c'.stage.isEnding = false) :
    c'.current.isSome = (c.answered? m).getD c.current.isSome := by
  refine h.current_move? hm ?_
  cases hs : c'.stage with
  | takingDown next =>
    rw [hs] at htrying hending
    cases next
    · cases hending
    · cases htrying
  | _ => rfl

/-- A loop that goes on after the move `m` went on before it. -/
theorem goesOn_of_move? (hm : c.move? p m = some c') (h : c'.stage.isEnding = false) :
    c.stage.isEnding = false ∧ c.taken? m ≠ some none := by
  rw [isEnding_move? hm, Bool.or_eq_false_iff, beq_eq_false_iff_ne] at h
  exact h

/-- With the pick of `target` a round begins. -/
theorem Chronicled.pick (h : Chronicled c done targets answers rounds) {target : Target}
    (hm : c.move? p m = some c') (hconfig : c'.config = c.config)
    (ht : c.taken? m = some target) (before : c.stage.trying? = none)
    (after : c'.stage.trying? = target) :
    Chronicled c' done (targets ++ [target]) answers (rounds ++ [⟨target, none⟩]) := by
  obtain ⟨hduty, -, hduty'⟩ := duty_of_pick ht hm
  -- The loop looks at the slot only when all duties are done, so the deeds so far are complete
  -- rounds.
  have hdone : done = Round.chronicle c.config false rounds := by
    rw [← h.deeds, hduty, List.append_nil]
  have hready : c.stage.isEnding = false := by
    rw [(ready_of_taken? ht).1]
    rfl
  refine ⟨by simp [h.targets], by simp [h.answers], ?_, ?_, ?_, ?_, ?_⟩
  · rw [hconfig, Round.chronicle_concat_lastUp, ← hdone, hduty', h.up before hready]
    cases target <;> simp [Round.deeds]
  · intro htrying hending
    rw [after] at htrying
    subst htrying
    exact absurd ht (goesOn_of_move? hm hending).2
  · intro htrying
    rw [after] at htrying
    subst htrying
    exact Round.forall_isSettled_concat (h.settled before) rfl
  · intro q hq
    rw [after] at hq
    subst hq
    exact ⟨rounds, rfl, h.settled before⟩
  · intro hending
    rw [isEnding_move? hm, hready, ht] at hending
    have htarget : target = none := by simpa using hending
    rw [htarget, List.getLast?_concat]

/-- The loop does its duty with the move `m`. -/
theorem Chronicled.pass (h : Chronicled c done targets answers rounds) (hp : c.Placed)
    (hm : c.move? p m = some c') (hconfig : c'.config = c.config) (ht : c.taken? m = none)
    (ha : c.answered? m = none) (trying : c'.stage.trying? = c.stage.trying?) :
    Chronicled c' (done ++ (c.deed? m).toList) targets answers rounds := by
  refine ⟨h.targets, h.answers, ?_, ?_, ?_, ?_, ?_⟩
  · rw [hconfig, ← h.deeds, duty_of_pass ht ha hm, List.append_assoc]
  · intro htrying hending
    rw [hp.current_of_known hm htrying hending, ha]
    exact h.up (trying ▸ htrying) (goesOn_of_move? hm hending).1
  · rw [trying]
    exact h.settled
  · rw [trying]
    exact h.last
  · intro hending
    rw [isEnding_move? hm, ht] at hending
    exact h.ended (by simpa using hending)

/-- The profile `q` of the round cannot be read. -/
theorem Chronicled.giveUp (h : Chronicled c done targets answers rounds) (hp : c.Placed)
    (hm : c.move? p m = some c') (hconfig : c'.config = c.config) {q : Profile}
    (ht : c.taken? m = none) (ha : c.answered? m = none) (unreadable : q.isReadable = false)
    (before : c.stage.trying? = some q) (after : c'.stage.trying? = none) :
    Chronicled c' (done ++ (c.deed? m).toList) targets answers rounds := by
  obtain ⟨past, rfl, hpast⟩ := h.last q before
  refine ⟨h.targets, h.answers, ?_, ?_, ?_, ?_, ?_⟩
  · rw [hconfig, ← h.deeds, duty_of_pass ht ha hm, List.append_assoc]
  · intro htrying hending
    rw [hp.current_of_known hm htrying hending, ha, hp.current_of_tried before after hm]
    simp [Round.lastUp, Round.isUp]
  · intro _
    exact Round.forall_isSettled_concat hpast (by simp [Round.isSettled, unreadable])
  · rw [after]
    exact fun _ => nofun
  · intro hending
    rw [isEnding_move? hm, ht] at hending
    exact h.ended (by simpa using hending)

/-- The engine has answered `up`. -/
theorem Chronicled.answer {past : List Round} {q : Profile} {up : Bool}
    (h : Chronicled c done targets answers (past ++ [{ target := some q }])) (hp : c.Placed)
    (hm : c.move? p m = some c') (hconfig : c'.config = c.config) (ht : c.taken? m = none)
    (ha : c.answered? m = some up) (readable : q.isReadable = true)
    (before : c.stage.trying? = some q) (after : c'.stage.trying? = none)
    (hpast : ∀ r ∈ past, r.isSettled = true) :
    Chronicled c' done targets (answers ++ [up]) (past ++ [⟨some q, some up⟩]) := by
  obtain ⟨hduty, -, hduty'⟩ := duty_of_answer ha before hm
  have htargets := h.targets
  have hanswers := h.answers
  have hdone := h.deeds
  rw [hduty, List.append_nil] at hdone
  refine ⟨by simpa using htargets, ?_, ?_, ?_, ?_, ?_, ?_⟩
  · rw [← hanswers]
    simp
  · rw [hconfig, hduty', hdone, Round.chronicle_concat_lastUp, Round.chronicle_concat_lastUp]
    simp [Round.deeds]
  · intro htrying hending
    rw [hp.current_of_known hm htrying hending, ha]
    cases up <;> simp [Round.lastUp, Round.isUp]
  · intro _
    exact Round.forall_isSettled_concat hpast (by simp [Round.isSettled, readable])
  · rw [after]
    exact fun _ => nofun
  · intro hending
    rw [isEnding_move? hm, ht, Stage.isEnding_of_trying? before] at hending
    cases hending

theorem Chronicled.move? (h : Chronicled c done targets answers rounds) (hp : c.Placed)
    (hm : c.move? p m = some c') :
    Chronicled c' (done ++ (c.deed? m).toList) (targets ++ (c.taken? m).toList)
      (answers ++ (c.answered? m).toList) (Round.after rounds (c.taken? m) (c.answered? m)) := by
  obtain ⟨-, hprogress, hconfig⟩ := hp.leads_move? hm
  cases hprogress with
  | pick target ht ha before after =>
    have hdeed : c.deed? m = none := (duty_of_pick ht hm).2.1
    rw [ht, ha, hdeed]
    simpa [Round.after] using h.pick hm hconfig ht before after
  | pass ht ha trying =>
    rw [ht, ha]
    simpa using h.pass hp hm hconfig ht ha trying
  | giveUp q ht ha unreadable before after =>
    rw [ht, ha]
    simpa using h.giveUp hp hm hconfig ht ha unreadable before after
  | answer q up ht ha readable before after =>
    obtain ⟨past, rfl, hpast⟩ := h.last q before
    have hdeed : c.deed? m = none := (duty_of_answer ha before hm).2.1
    rw [ht, ha, hdeed, Round.after, List.modifyLast_concat]
    simpa using h.answer hp hm hconfig ht ha readable before after hpast

end Controller

end SplitTunnel
