import SplitTunnel.Proofs.Controller.Switch

/-!
# What is asked of the engine (`SPEC_FULL.md` §4.5, connecting and disconnecting)

Every profile that is picked up makes an attempt: if its subnets can be read, the engine is brought
up, and if it comes up, it is told to negotiate, unless a password is missing, and is taken down
once. The calls of one attempt end before those of the next begin.

* `Attempt.calls`: the calls of an attempt.
* `Controller.due`: the calls of the attempts so far that have still to be made.
* `Controller.Progress`, `Controller.Leads`: what a move does to attempts.
* `Controller.engine_calls_blocks`: in every run the calls so far and the ones that are due are the
  attempts' calls, and when the loop has ended, none is due and no interface is read.
-/

namespace SplitTunnel

/-! ## Attempts -/

/-- The engine is brought up for a profile `q` that can be read. -/
def ServiceConfig.openingCalls (config : ServiceConfig) (q : Profile) : List EngineCall :=
  if q.isReadable then [.bringUp config.logPath config.dataDir config.byod] else []

/-- The engine is told to negotiate unless `q` misses a password. -/
def ServiceConfig.negotiationCalls (config : ServiceConfig) (q : Profile) : List EngineCall :=
  if q.isMissingPassword then []
  else [.negotiate (Settings.ofProfile q config.language).text]

/-- An attempt to connect. -/
structure Attempt where
  profile : Profile
  /-- Whether the engine came up, once it has answered. -/
  answer : Option Bool := none
deriving DecidableEq, Repr

namespace Attempt

/-- The calls for the attempt `a`. An engine that has come up is taken down once. -/
def calls (config : ServiceConfig) (a : Attempt) : List EngineCall :=
  config.openingCalls a.profile ++
    if a.answer = some true then config.negotiationCalls a.profile ++ [.takeDown] else []

/-- The engine has answered in `a`, or is not asked because the profile cannot be read. -/
def isSettled (a : Attempt) : Bool := a.answer.isSome == a.profile.isReadable

end Attempt

namespace Stage

/-- The profile that has been picked up, until it is known whether the engine is up for it. -/
@[simp] def trying? : Stage → Option Profile
  | adopting q | blocking q | releasing (some q) | takingDown (some q) | inTakeDown (some q)
  | announcing q | preparing q | bringingUp q | inBringUp q => some q
  | _ => none

/-- The profile that the engine is being brought up for. -/
def asked? : Stage → Option Profile
  | inBringUp q => some q
  | _ => none

/-- The profile that the engine is still to be brought up for. -/
@[simp] def opening? : Stage → Option Profile
  | inBringUp _ => none
  | s => s.trying?

/-- The profile that has been set for the engine's recording. -/
def prepared? : Stage → Option Profile
  | bringingUp q | inBringUp q => some q
  | _ => none

/-- The engine is about to be taken down. -/
@[simp] def isTakingDown : Stage → Bool
  | takingDown _ => true
  | _ => false

/-- No engine is up, or it is about to be taken down. -/
def isDown : Stage → Bool
  | created | takingDown _ | inTakeDown _ | lowering | parting | leaving | stopped | announcing _
  | preparing _ | bringingUp _ | inBringUp _ => true
  | _ => false

/-- The placeholder has been lowered for good. -/
def isParted : Stage → Bool
  | parting | leaving | stopped => true
  | _ => false

/-- The calls that have still to be made at `s` for what has been picked up so far, if the engine is
up for `current`. -/
@[simp] def due (config : ServiceConfig) (current : Option Profile) (s : Stage) : List EngineCall :=
  (match s with
    | checking q => config.negotiationCalls q
    | _ => []) ++
  (if current.isSome || s.isTakingDown then [.takeDown] else []) ++
  s.opening?.toList.flatMap config.openingCalls

end Stage

namespace Controller

/-- What the engine answers with a move. -/
def answered? (c : Controller) : Move → Option Bool
  | .act (.advance up) => c.stage.asked?.map fun _ => up
  | _ => none

/-- What the engine answers in a run, in order. -/
def answers (p : Platform) (c : Controller) : List Move → List Bool
  | [] => []
  | m :: rest => (c.answered? m).toList ++ ((c.move? p m).map fun c' => c'.answers p rest).getD []

/-- The calls that have still to be made for what `c` has picked up so far. -/
def due (c : Controller) : List EngineCall := c.stage.due c.config c.current

/-- The calls of `c` so far and those that are `due`. -/
def ledger (c : Controller) : List EngineCall := c.calls ++ c.due

variable {p : Platform} {c c' d : Controller} {m : Move} {moves : List Move}

theorem answers_cons (h : c.move? p m = some c') (rest : List Move) :
    c.answers p (m :: rest) = (c.answered? m).toList ++ c'.answers p rest := by
  rw [answers, h]
  rfl

/-! ## What a move does to attempts -/

/-- Where `c` is says what is known about the engine and the placeholder. -/
structure Placed (c : Controller) : Prop where
  down : c.stage.isDown = true → c.current = none
  prepared : ∀ q, c.stage.prepared? = some q → q.isReadable = true
  lowered : c.stage.isParted = true → c.tunnel.placeholder = none

/-- What the move `m` does to attempts. -/
inductive Progress (c c' : Controller) (m : Move) : Prop where
  /-- An attempt begins, or the loop picks up that no connection is wanted. -/
  | pick (target : Target) (ht : c.taken? m = some target) (ha : c.answered? m = none)
      (before : c.stage.trying? = none) (after : c'.stage.trying? = target)
      (ledger : c'.ledger = c.ledger ++ target.toList.flatMap c.config.openingCalls)
  | pass (ht : c.taken? m = none) (ha : c.answered? m = none)
      (trying : c'.stage.trying? = c.stage.trying?) (ledger : c'.ledger = c.ledger)
  /-- The profile `q` of the attempt cannot be read. -/
  | giveUp (q : Profile) (ht : c.taken? m = none) (ha : c.answered? m = none)
      (unreadable : q.isReadable = false) (before : c.stage.trying? = some q)
      (after : c'.stage.trying? = none) (ledger : c'.ledger = c.ledger)
  /-- The engine has come up for the attempt with `q`, or not. -/
  | answer (q : Profile) (up : Bool) (ht : c.taken? m = none) (ha : c.answered? m = some up)
      (readable : q.isReadable = true) (before : c.stage.trying? = some q)
      (after : c'.stage.trying? = none)
      (ledger : c'.ledger =
        c.ledger ++ if up then c.config.negotiationCalls q ++ [.takeDown] else [])

/-- Where the move `m` leads: the loop stays `Placed`, and its attempts go on. -/
structure Leads (c c' : Controller) (m : Move) : Prop where
  placed : c'.Placed
  progress : Progress c c' m
  config : c'.config = c.config

/-- The loop is `Placed` where it has nothing prepared, and where it need not know that the engine
is down or the placeholder lowered, unless they are. -/
theorem placed_of_unprepared (hdown : c.stage.isDown = false ∨ c.current = none)
    (hprepared : c.stage.prepared? = none)
    (hlowered : c.stage.isParted = false ∨ c.tunnel.placeholder = none) : c.Placed := by
  refine ⟨fun hd => hdown.resolve_left ?_, fun q hq => ?_, fun hp => hlowered.resolve_left ?_⟩
  · simp [hd]
  · rw [hprepared] at hq
    cases hq
  · simp [hp]

theorem placed_create (config : ServiceConfig) (supported : Capabilities) :
    (create config supported).Placed := placed_of_unprepared (.inr rfl) rfl (.inl rfl)

/-- A step from `s` to `s'` that makes the first of the calls that are due, `made`, or none. -/
theorem progress_of_stages {s s' : Stage} {up : Bool} {made : List EngineCall} (hs : c.stage = s)
    (hs' : c'.stage = s') (ready : s ≠ .ready) (asked : s.asked? = none)
    (config : c'.config = c.config) (trying : s'.trying? = s.trying?)
    (calls : c'.calls = c.calls ++ made)
    (due : s.due c.config c.current = made ++ s'.due c.config c'.current) :
    Progress c c' (.act (.advance up)) := by
  subst hs hs'
  refine .pass (taken?_eq_none ready _) (by rw [answered?, asked]; rfl) trying ?_
  rw [ledger, ledger, Controller.due, Controller.due, config, calls, due, List.append_assoc]

/-- A step from `s` to `s'` that makes no call and goes on with the same engine. -/
theorem progress_of_due {s s' : Stage} {up : Bool} (hs : c.stage = s) (hs' : c'.stage = s')
    (ready : s ≠ .ready) (asked : s.asked? = none) (config : c'.config = c.config)
    (trying : s'.trying? = s.trying?) (calls : c'.calls = c.calls)
    (due : s.due c.config c.current = s'.due c.config c'.current) :
    Progress c c' (.act (.advance up)) :=
  progress_of_stages hs hs' ready asked config trying
    (show c'.calls = c.calls ++ [] by rw [calls, List.append_nil]) due

/-- `look?` picks something up. -/
theorem leads_look {up : Bool} (hs : c.stage = .ready) (hl : c.look? = some c') :
    Leads c c' (.act (.advance up)) := by
  obtain ⟨target, ht, slot, rfl⟩ := look?_eq_some hs hl
  have hready (config : ServiceConfig) (current : Option Profile) (rest : List EngineCall) :
      [] ++ (if current.isSome || false then [.takeDown] else []) ++ rest =
        Stage.ready.due config current ++ rest := by
    simp
  obtain ⟨s, hdown, hprepared, hparted, htrying, hdue, hpick⟩ : ∃ s : Stage, s.isDown = false ∧
      s.prepared? = none ∧ s.isParted = false ∧ s.trying? = target ∧
      (∀ config current, s.due config current =
        Stage.ready.due config current ++ target.toList.flatMap config.openingCalls) ∧
      ({ c with slot } : Controller).pick target = { c with slot, stage := s } := by
    cases target with
    | none => exact ⟨.releasing none, rfl, rfl, rfl, rfl, fun _ _ => hready _ _ _, rfl⟩
    | some q =>
      unfold pick
      dsimp only
      split
      · exact ⟨.adopting q, rfl, rfl, rfl, rfl, fun _ _ => hready _ _ _, rfl⟩
      · exact ⟨.releasing (some q), rfl, rfl, rfl, rfl, fun _ _ => hready _ _ _, rfl⟩
  rw [hpick]
  refine ⟨placed_of_unprepared (.inl hdown) hprepared (.inl hparted),
    .pick target ht ?_ ?_ htrying ?_, rfl⟩
  · rw [answered?, hs]
    rfl
  · rw [hs]
    rfl
  · rw [ledger, ledger, due, due, hs, List.append_assoc, ← hdue]

/-- The profile `q` is set if it can be read, and otherwise the attempt ends without a call. -/
theorem Placed.leads_prepare (h : c.Placed) {up : Bool} {q : Profile} (hs : c.stage = .preparing q)
    (ha : c.advance? p up = some c') : Leads c c' (.act (.advance up)) := by
  have hdown : c.current = none := h.down (by rw [hs]; rfl)
  have hok := c.tunnel.isOk_setProfile q
  rw [advance?, hs] at ha
  dsimp only at ha
  split at ha
  · next tunnel he =>
    rw [he] at hok
    cases ha
    refine ⟨⟨fun _ => hdown, fun _ hq => ?_,
      fun hparted => absurd hparted Bool.false_ne_true⟩, ?_, rfl⟩
    · cases hq
      exact hok.symm
    · exact progress_of_due hs rfl (by simp) rfl rfl rfl rfl rfl
  · next tunnel e he =>
    have hunreadable : q.isReadable = false := by
      rw [← hok, he]
      rfl
    have htaken : c.taken? (.act (.advance up)) = none := taken?_eq_none (by simp [hs]) _
    cases ha
    refine ⟨placed_of_unprepared (.inl rfl) rfl (.inl rfl),
      .giveUp q htaken ?_ hunreadable ?_ rfl ?_, rfl⟩
    · rw [answered?, hs]
      rfl
    · rw [hs]
      rfl
    · simp [ledger, due, hs, goTo, ServiceConfig.openingCalls, hunreadable]

/-- The engine answers `up`. -/
theorem Placed.leads_answer (h : c.Placed) {up : Bool} {q : Profile} (hs : c.stage = .inBringUp q)
    (ha : c.advance? p up = some c') : Leads c c' (.act (.advance up)) := by
  have hdown : c.current = none := h.down (by rw [hs]; rfl)
  have hreadable : q.isReadable = true := h.prepared q (by rw [hs]; rfl)
  have htaken : c.taken? (.act (.advance up)) = none := taken?_eq_none (by simp [hs]) _
  have hanswer : c.answered? (.act (.advance up)) = some up := by
    rw [answered?, hs]
    rfl
  have htrying : c.stage.trying? = some q := by
    rw [hs]
    rfl
  have hdue : c.due = [] := by
    rw [due, hs, hdown]
    rfl
  rw [advance?, hs] at ha
  dsimp only at ha
  split at ha
  · next hup =>
    cases ha
    refine ⟨placed_of_unprepared (.inl rfl) rfl (.inl rfl), ?_, rfl⟩
    refine .answer q up htaken hanswer hreadable htrying rfl ?_
    rw [ledger, ledger, hdue, hup]
    simp [due, goTo]
  · next hup =>
    cases ha
    refine ⟨placed_of_unprepared (.inl rfl) rfl (.inl rfl), ?_, rfl⟩
    refine .answer q up htaken hanswer hreadable htrying rfl ?_
    rw [ledger, ledger, hdue, if_neg hup]
    simp [due, goTo, hdown]

/-- `advance?` makes the first of the calls that are due, or none, where nothing begins or ends. -/
theorem Placed.leads_advance (h : c.Placed) {up : Bool} (ha : c.advance? p up = some c') :
    Leads c c' (.act (.advance up)) := by
  have hadv := ha
  have down {s : Stage} (hs : c.stage = s) (hd : s.isDown = true) : c.current = none :=
    h.down (hs ▸ hd)
  unfold advance? at hadv
  split at hadv
  -- The loop takes no step before it is started and after it has ended.
  case h_1 | h_2 => cases hadv
  case h_3 hs => exact leads_look hs hadv
  case h_13 q hs => exact h.leads_prepare hs ha
  case h_15 q hs => exact h.leads_answer hs ha
  case h_4 q hs | h_5 q hs =>
    cases hadv
    exact ⟨placed_of_unprepared (.inl rfl) rfl (.inl rfl),
      progress_of_due hs rfl (by simp) rfl rfl rfl rfl rfl, rfl⟩
  case h_6 next hs =>
    split at hadv
    · next hcurrent =>
      cases hadv
      cases next <;>
        exact ⟨placed_of_unprepared (.inr hcurrent) rfl (.inl rfl),
          progress_of_due hs rfl (by simp) rfl rfl rfl rfl rfl, rfl⟩
    · next v hcurrent =>
      cases hadv
      cases next <;>
        exact ⟨placed_of_unprepared (.inr rfl) rfl (.inl rfl),
          progress_of_due hs rfl (by simp) rfl rfl rfl rfl (by rw [hcurrent]; rfl), rfl⟩
  -- `takeDown` is the first of the calls that are due: the engine has been let go by now.
  case h_7 next hs =>
    have hcurrent := down hs rfl
    cases hadv
    cases next <;>
      exact ⟨placed_of_unprepared (.inr hcurrent) rfl (.inl rfl),
        progress_of_stages hs rfl (by simp) rfl rfl rfl rfl (by simp [call, hcurrent]), rfl⟩
  case h_8 next hs =>
    cases hadv
    cases next <;>
      exact ⟨placed_of_unprepared (.inr (down hs rfl)) rfl (.inl rfl),
        progress_of_due hs rfl (by simp) rfl rfl rfl rfl rfl, rfl⟩
  case h_9 hs =>
    cases hadv
    exact ⟨placed_of_unprepared (.inr (down hs rfl)) rfl
        (.inr c.tunnel.placeholder_lowerPlaceholder),
      progress_of_due hs rfl (by simp) rfl rfl rfl rfl rfl, rfl⟩
  case h_10 hs | h_11 hs =>
    have hlowered := h.lowered (by rw [hs]; rfl)
    cases hadv
    exact ⟨placed_of_unprepared (.inr (down hs rfl)) rfl (.inr hlowered),
      progress_of_due hs rfl (by simp) rfl rfl rfl rfl rfl, rfl⟩
  case h_12 q hs =>
    cases hadv
    exact ⟨placed_of_unprepared (.inr (down hs rfl)) rfl (.inl rfl),
      progress_of_due hs rfl (by simp) rfl rfl rfl rfl rfl, rfl⟩
  -- The profile has been set, so its subnets can be read and the call belongs to the attempt.
  case h_14 q hs =>
    have hreadable := h.prepared q (by rw [hs]; rfl)
    cases hadv
    refine ⟨⟨fun _ => down hs rfl, fun _ hq => ?_,
      fun hparted => absurd hparted Bool.false_ne_true⟩,
      progress_of_stages hs rfl (by simp) rfl rfl rfl rfl ?_, rfl⟩
    · cases hq
      exact hreadable
    · simp [call, down hs rfl, ServiceConfig.openingCalls, hreadable]
  case h_16 q hs =>
    split at hadv
    · next hmissing =>
      cases hadv
      refine ⟨placed_of_unprepared (.inl rfl) rfl (.inl rfl),
        progress_of_due hs rfl (by simp) rfl rfl rfl rfl ?_, rfl⟩
      simp [goTo, ServiceConfig.negotiationCalls, hmissing]
    · next hmissing =>
      cases hadv
      refine ⟨placed_of_unprepared (.inl rfl) rfl (.inl rfl),
        progress_of_stages hs rfl (by simp) rfl rfl rfl rfl ?_, rfl⟩
      simp [call, ServiceConfig.negotiationCalls, hmissing]
  case h_17 hs | h_18 hs =>
    cases hadv
    exact ⟨placed_of_unprepared (.inl rfl) rfl (.inl rfl),
      progress_of_due hs rfl (by simp) rfl rfl rfl rfl rfl, rfl⟩

theorem Placed.leads_move? (h : c.Placed) (hm : c.move? p m = some c') : Leads c c' m := by
  -- Everybody else leaves alone what attempts depend on.
  have aside (hstage : c'.stage = c.stage) (hcurrent : c'.current = c.current)
      (hcalls : c'.calls = c.calls) (hconfig : c'.config = c.config)
      (hplaceholder : c.tunnel.placeholder = none → c'.tunnel.placeholder = none)
      (ht : c.taken? m = none) (ha : c.answered? m = none) : Leads c c' m := by
    refine ⟨⟨?_, ?_, ?_⟩, .pass ht ha (by rw [hstage]) ?_, hconfig⟩
    · rw [hstage, hcurrent]
      exact h.down
    · rw [hstage]
      exact h.prepared
    · rw [hstage]
      exact fun hparted => hplaceholder (h.lowered hparted)
    · rw [ledger, ledger, due, due, hstage, hcurrent, hcalls, hconfig]
  cases moved_of_move? hm with
  | start hs =>
    refine ⟨placed_of_unprepared (.inl rfl) rfl (.inl rfl), .pass rfl rfl (by rw [hs]; rfl) ?_, rfl⟩
    rw [ledger, ledger, due, due, hs]
    rfl
  | advance up c' ha => exact h.leads_advance ha
  | request target => exact aside rfl rfl rfl rfl id rfl rfl
  | dropHandles => exact aside rfl rfl rfl rfl id rfl rfl
  | callback b =>
    have hplaceholder := placeholder_callback p c b
    cases b <;> refine aside rfl rfl rfl rfl (fun hnone => ?_) rfl rfl <;>
      rw [hplaceholder, hnone, ite_self]
  | descriptor i a host => exact aside rfl rfl rfl rfl id rfl rfl

/-! ## Runs -/

/-- The `attempts` of a run. Only the last one may still be open, and then the loop is about it. -/
structure Tried (c : Controller) (targets : List Target) (answers : List Bool)
    (attempts : List Attempt) : Prop where
  profiles : attempts.map Attempt.profile = targets.filterMap id
  answers : attempts.filterMap Attempt.answer = answers
  ledger : c.ledger = attempts.flatMap (Attempt.calls c.config)
  settled : c.stage.trying? = none → ∀ a ∈ attempts, a.isSettled = true
  last : ∀ q, c.stage.trying? = some q → ∃ past, attempts = past ++ [⟨q, none⟩] ∧
    ∀ a ∈ past, a.isSettled = true

theorem tried_create (config : ServiceConfig) (supported : Capabilities) :
    Tried (create config supported) [] [] [] :=
  ⟨rfl, rfl, rfl, fun _ _ => nofun, fun _ => nofun⟩

theorem Attempt.calls_open (config : ServiceConfig) (q : Profile) :
    Attempt.calls config ⟨q, none⟩ = config.openingCalls q := List.append_nil _

theorem Tried.move? {targets : List Target} {answers : List Bool} {attempts : List Attempt}
    (h : Tried c targets answers attempts) (hp : c.Placed) (hm : c.move? p m = some c') :
    ∃ attempts', Tried c' (targets ++ (c.taken? m).toList) (answers ++ (c.answered? m).toList)
      attempts' := by
  obtain ⟨-, hprogress, hconfig⟩ := hp.leads_move? hm
  cases hprogress with
  | pick target ht ha before after ledger =>
    rw [ht, ha]
    cases target with
    | none =>
      refine ⟨attempts, by simp [h.profiles], by simp [h.answers], ?_, fun _ => h.settled before,
        ?_⟩
      · rw [ledger, hconfig, h.ledger]
        simp
      · rw [after]
        exact fun _ => nofun
    | some q =>
      refine ⟨attempts ++ [⟨q, none⟩], by simp [h.profiles], by simp [h.answers], ?_, ?_, ?_⟩
      · rw [ledger, hconfig, h.ledger]
        simp [Attempt.calls_open]
      · rw [after]
        exact nofun
      · rw [after]
        rintro _ ⟨⟩
        exact ⟨attempts, rfl, h.settled before⟩
  | pass ht ha trying ledger =>
    rw [ht, ha]
    refine ⟨attempts, by simp [h.profiles], by simp [h.answers], ?_, ?_, ?_⟩
    · rw [ledger, hconfig, h.ledger]
    · rw [trying]
      exact h.settled
    · rw [trying]
      exact h.last
  | giveUp q ht ha unreadable before after ledger =>
    -- The attempt stays without an answer, and its profile without a call.
    rw [ht, ha]
    obtain ⟨past, rfl, hpast⟩ := h.last q before
    refine ⟨past ++ [⟨q, none⟩], by simp [h.profiles], by simp [h.answers], ?_, fun _ a ha => ?_,
      ?_⟩
    · rw [ledger, hconfig, h.ledger]
    · rcases List.mem_append.mp ha with ha | ha
      · exact hpast a ha
      · rw [List.mem_singleton.mp ha]
        simp [Attempt.isSettled, unreadable]
    · rw [after]
      exact fun _ => nofun
  | answer q up ht ha readable before after ledger =>
    rw [ht, ha]
    obtain ⟨past, rfl, hpast⟩ := h.last q before
    have hprofiles := h.profiles
    have hanswers := h.answers
    refine ⟨past ++ [⟨q, some up⟩], by simpa using hprofiles, ?_, ?_, fun _ a ha => ?_, ?_⟩
    · rw [← hanswers]
      simp
    · rw [ledger, hconfig, h.ledger]
      simp [Attempt.calls]
    · rcases List.mem_append.mp ha with ha | ha
      · exact hpast a ha
      · rw [List.mem_singleton.mp ha]
        simp [Attempt.isSettled, readable]
    · rw [after]
      exact fun _ => nofun

theorem Tried.run? {targets : List Target} {answers : List Bool} {attempts : List Attempt}
    (h : Tried c targets answers attempts) (hp : c.Placed) (hd : c.run? p moves = some d) :
    d.Placed ∧ d.config = c.config ∧
      ∃ attempts', Tried d (targets ++ c.picked p moves) (answers ++ c.answers p moves)
        attempts' := by
  induction moves generalizing c targets answers attempts with
  | nil =>
    cases hd
    refine ⟨hp, rfl, attempts, ?_⟩
    rw [picked, Controller.answers, List.append_nil, List.append_nil]
    exact h
  | cons m rest ih =>
    obtain ⟨c', hm, hrest⟩ := run?_cons.mp hd
    obtain ⟨hp', -, hconfig⟩ := hp.leads_move? hm
    obtain ⟨attempts', h'⟩ := h.move? hp hm
    obtain ⟨hpd, hconfig', htried⟩ := ih h' hp' hrest
    refine ⟨hpd, hconfig'.trans hconfig, ?_⟩
    rw [picked_cons hm, answers_cons hm, ← List.append_assoc, ← List.append_assoc]
    exact htried

/-- In every run there is one `Attempt` for each profile that was picked up, in order. `d.calls` and
after them `d.due` are the calls of the attempts: the engine is brought up if the profile can be
read, and if it has come up, it is told to negotiate with the profile's settings, unless a password
is missing, and is taken down once. All attempts but the last one are settled. When the loop is
`stopped`, so is the last one; no call is due, the engine is up for no profile, there is no
placeholder, and every reader has exited. -/
theorem engine_calls_blocks {config : ServiceConfig} {supported : Capabilities}
    (hd : (create config supported).run? p moves = some d) :
    ∃ attempts : List Attempt,
      attempts.map Attempt.profile = ((create config supported).picked p moves).filterMap id ∧
      attempts.filterMap Attempt.answer = (create config supported).answers p moves ∧
      d.calls ++ d.due = attempts.flatMap (Attempt.calls config) ∧
      (∀ a ∈ attempts.dropLast, a.isSettled = true) ∧
      (d.stage.trying? = none → ∀ a ∈ attempts, a.isSettled = true) ∧
      (d.stage = .stopped → (∀ a ∈ attempts, a.isSettled = true) ∧ d.due = [] ∧
        d.current = none ∧ d.tunnel.placeholder = none ∧
        ∀ i reader, d.tunnel.host.drain? i = some reader → reader.isAlive = false) := by
  obtain ⟨hp, hconfig, attempts, h⟩ :=
    (tried_create config supported).run? (placed_create config supported) hd
  have hkept : d.tunnel.Kept False := kept_run? (Tunnel.kept_start ..) nofun hd
  refine ⟨attempts, h.profiles, h.answers, ?_, fun a ha => ?_, h.settled, fun hs => ?_⟩
  · rw [← ledger, h.ledger, hconfig]
    rfl
  -- Only the last attempt may be open, and only while the loop is about it.
  · cases htrying : d.stage.trying? with
    | none => exact h.settled htrying a (List.dropLast_subset _ ha)
    | some q =>
      obtain ⟨past, rfl, hpast⟩ := h.last q htrying
      rw [List.dropLast_concat] at ha
      exact hpast a ha
  · have hcurrent := hp.down (by rw [hs]; rfl)
    have hnone := hp.lowered (by rw [hs]; rfl)
    refine ⟨h.settled (by rw [hs]; rfl), ?_, hcurrent, hnone, fun i reader hi => ?_⟩
    · rw [due, hs, hcurrent]
      rfl
    · exact hkept.isAlive_eq_false hnone hi

/-- The engine comes up for one profile, does not come up for the next, and is not asked for one
that cannot be read; then no connection is wanted. -/
def untilStopped : List Move :=
  [.start, .act (.request (some plainProfile))] ++ List.replicate 10 .next ++
    [.act (.request (some plainProfile))] ++ List.replicate 9 .next ++
    [.act (.advance false), .next, .act (.request (some brokenProfile))] ++
    List.replicate 7 .next ++ [.act (.request none)] ++ List.replicate 5 .next

/-- Three attempts in `untilStopped`, of which the engine came up for the first. -/
theorem engine_calls_untilStopped :
    ∃ (d : Controller) (attempts : List Attempt),
      (create {} {}).run? .agreeing untilStopped = some d ∧ d.stage = .stopped ∧
      attempts.map Attempt.profile = [plainProfile, plainProfile, brokenProfile] ∧
      attempts.filterMap Attempt.answer = [true, false] ∧
      (∀ a ∈ attempts, a.isSettled = true) ∧ d.calls = attempts.flatMap (Attempt.calls {}) ∧
      d.current = none ∧ d.tunnel.placeholder = none := by
  obtain ⟨d, hd, hs⟩ : ∃ d, (create {} {}).run? .agreeing untilStopped = some d ∧
      d.stage = .stopped := ⟨_, Option.eq_some_of_isSome (by decide +kernel), by decide +kernel⟩
  have hpicked : ((create {} {}).picked .agreeing untilStopped).filterMap id =
      [plainProfile, plainProfile, brokenProfile] := by decide +kernel
  have hanswers : (create {} {}).answers .agreeing untilStopped = [true, false] := by
    decide +kernel
  obtain ⟨attempts, hprofiles, hanswered, hcalls, -, -, hstopped⟩ := engine_calls_blocks hd
  obtain ⟨hsettled, hdue, hcurrent, hnone, -⟩ := hstopped hs
  rw [hdue, List.append_nil] at hcalls
  exact ⟨d, attempts, hd, hs, hprofiles.trans hpicked, hanswered.trans hanswers, hsettled, hcalls,
    hcurrent, hnone⟩

end Controller

end SplitTunnel
