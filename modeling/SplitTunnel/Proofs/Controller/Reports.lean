import SplitTunnel.Proofs.Controller.Deeds
import Mathlib.Data.List.Destutter

/-!
# What the user is shown (`SPEC_FULL.md` §4.5, the status stream)

The loop and the engine publish states to one stream, in which no state follows itself.

* `StatusFeed.published_foldl_report`: states that are reported one after another are published
  without repetitions.
* `Controller.reported`: the states that are reported in a run, by the loop and by the engine.
* `Controller.Shown`: what the stream ends with, by where the loop is.
* `Controller.status_stream`: the stream of every run.
-/

namespace SplitTunnel

/-! ## Streams -/

namespace StatusFeed

variable {f : StatusFeed} {a s : VpnState}

theorem head?_destutter' (a : VpnState) (reports : List VpnState) :
    (reports.destutter' (· ≠ ·) a).head? = some a := by
  induction reports generalizing a with
  | nil => rfl
  | cons s rest ih =>
    by_cases h : a = s
    · rw [List.destutter'_cons_neg _ (not_not_intro h)]
      exact ih a
    · rw [List.destutter'_cons_pos _ h]
      rfl

/-- `reports` that are reported one after another are published without repetitions, the state `a`
published last included. -/
theorem published_foldl_report (hf : f.published.getLast? = some a) (reports : List VpnState) :
    (reports.foldl report f).published =
      f.published.dropLast ++ reports.destutter' (· ≠ ·) a := by
  induction reports generalizing f a with
  | nil =>
    obtain ⟨front, hfront⟩ := List.getLast?_eq_some_iff.mp hf
    simp [hfront]
  | cons s rest ih =>
    rw [List.foldl_cons, ih (getLast?_report f s)]
    by_cases h : a = s
    · rw [List.destutter'_cons_neg _ (not_not_intro h), report, if_pos (h ▸ hf), h]
    · have hnew : ¬ f.published.getLast? = some s := by
        rw [hf]
        exact fun hsame => h (Option.some.inj hsame)
      obtain ⟨front, hfront⟩ := List.getLast?_eq_some_iff.mp hf
      rw [List.destutter'_cons_pos _ h, published_report, if_neg hnew, List.dropLast_concat,
        hfront, List.dropLast_concat, List.append_assoc]
      rfl

/-- Nothing has been published in `f` of an end, but for the first state. -/
structure IsGoing (f : StatusFeed) : Prop where
  ne_nil : f.published ≠ []
  disconnecting : .disconnecting ∉ f.published
  disconnected : .disconnected ∉ f.published.tail

theorem notMem_report (h : a ∉ f.published) (hs : s ≠ a) : a ∉ (f.report s).published := by
  rw [published_report]
  split
  · exact h
  · simp [h, Ne.symm hs]

theorem IsGoing.report (h : f.IsGoing) (hs : s ≠ .disconnecting) (hs' : s ≠ .disconnected) :
    (f.report s).IsGoing := by
  refine ⟨?_, notMem_report h.disconnecting hs, ?_⟩
  · rw [published_report]
    split
    · exact h.ne_nil
    · simp
  · rw [published_report]
    split
    · exact h.disconnected
    · rw [List.tail_append_of_ne_nil h.ne_nil]
      simp [h.disconnected, Ne.symm hs']

end StatusFeed

/-- The engine never says that a connection ends or is gone. -/
theorem EngineStatus.vpnState_ne (s : EngineStatus) :
    s.vpnState ≠ .disconnecting ∧ s.vpnState ≠ .disconnected := by cases s <;> decide

/-- The loop ends a connection, or has ended the last one: what it has published of that stays as it
is, if the engine is silent. -/
def Stage.isTearingDown : Stage → Bool
  | takingDown none | inTakeDown none | lowering | parting | leaving | stopped => true
  | _ => false

theorem Stage.isEnding_of_isTearingDown {s : Stage} (h : s.isTearingDown = true) :
    s.isEnding = true := by
  unfold isTearingDown at h
  split at h <;> first | rfl | cases h

namespace Controller

variable {p : Platform} {c c' d : Controller} {m : Move} {moves rest : List Move} {up : Bool}

/-! ## Reports -/

/-- The state that the engine reports with a move. -/
def Move.engineReport? : Move → Option VpnState
  | .act (.callback (.updateStatus code)) =>
    (EngineStatus.ofCode? code).map EngineStatus.vpnState
  | _ => none

/-- The state that is reported with the move `m`, by the loop or by the engine. -/
def reported? (c : Controller) (m : Move) : Option VpnState :=
  ((c.deed? m).bind Deed.report?).or m.engineReport?

/-- The states that are reported in a run, in order. -/
def reported (p : Platform) (c : Controller) (moves : List Move) : List VpnState :=
  c.gather reported? p moves

theorem reported_cons (h : c.move? p m = some c') (rest : List Move) :
    c.reported p (m :: rest) = (c.reported? m).toList ++ c'.reported p rest := gather_cons h rest

/-- The move `m` publishes what is `reported?` with it. -/
theorem status_move? (hm : c.move? p m = some c') :
    c'.status = (c.reported? m).toList.foldl StatusFeed.report c.status := by
  cases moved_of_move? hm with
  | start | request | dropHandles | descriptor => rfl
  | advance up _ ha =>
    rw [(does_advance? ha).status, reported?]
    exact congrArg (fun s : Option VpnState => s.toList.foldl _ _) (Option.or_none).symm
  | callback b =>
    cases b with
    | request r => rfl
    | updateStatus code =>
      show c.status.reportEngine code = _
      rw [reported?, StatusFeed.reportEngine, Move.engineReport?]
      cases EngineStatus.ofCode? code <;> rfl

theorem status_run? (hd : c.run? p moves = some d) :
    d.status = (c.reported p moves).foldl StatusFeed.report c.status := by
  induction moves generalizing c with
  | nil =>
    cases hd
    rfl
  | cons m rest ih =>
    obtain ⟨c', hm, hrest⟩ := run?_cons.mp hd
    rw [reported_cons hm, List.foldl_append, ← status_move? hm]
    exact ih hrest

/-! ## The end -/

/-- The state that the engine reports with `m`, if the last connection is being taken down. -/
def lateReport? (c : Controller) (m : Move) : Option VpnState :=
  if c.stage.isTearingDown then m.engineReport? else none

/-- The engine reports nothing once the last connection is being taken down. -/
def EndsSilently (p : Platform) (c : Controller) (moves : List Move) : Prop :=
  c.gather lateReport? p moves = []

instance : Decidable (c.EndsSilently p moves) := inferInstanceAs (Decidable (_ = _))

theorem endsSilently_cons (hm : c.move? p m = some c') :
    c.EndsSilently p (m :: rest) ↔ c.lateReport? m = none ∧ c'.EndsSilently p rest := by
  rw [EndsSilently, gather_cons hm, List.append_eq_nil_iff, Option.toList_eq_nil_iff]
  rfl

/-- What the stream of `c` ends with, by where the loop is, if the engine was `up` or not when it
was picked up that no connection is wanted. -/
inductive Shown (up : Bool) (c : Controller) : Prop
  | going (hs : c.stage.isEnding = false) (h : c.status.IsGoing)
  | ending (hs : c.stage = .releasing none) (hcurrent : c.current.isSome = up)
    (h : .disconnecting ∉ c.status.published)
  | down (hs : c.stage = .takingDown none ∨ c.stage = .inTakeDown none) (hup : up = true)
    (h : c.status.published.getLast? = some .disconnecting)
  | low (hs : c.stage = .lowering ∨ c.stage = .parting)
    (h : up = true ∧ c.status.published.getLast? = some .disconnecting ∨
      up = false ∧ .disconnecting ∉ c.status.published)
  | gone (hs : c.stage = .leaving ∨ c.stage = .stopped)
    (hlast : c.status.published.getLast? = some .disconnected)
    (h : c.status.published.dropLast.getLast? = some .disconnecting ↔ up = true)

theorem shown_create (config : ServiceConfig) (supported : Capabilities) :
    (create config supported).Shown up :=
  .going rfl ⟨List.cons_ne_nil _ _,
    (show VpnState.disconnecting ∉ [VpnState.disconnected] by decide), List.not_mem_nil⟩

theorem Shown.same (h : c.Shown up) (stage : c'.stage = c.stage)
    (current : c'.current = c.current) (status : c'.status = c.status) : c'.Shown up := by
  cases h with
  | going hs h => exact .going (stage ▸ hs) (status ▸ h)
  | ending hs hcurrent h => exact .ending (stage ▸ hs) (current ▸ hcurrent) (status ▸ h)
  | down hs hup h => exact .down (stage ▸ hs) hup (status ▸ h)
  | low hs h => exact .low (stage ▸ hs) (status ▸ h)
  | gone hs hlast h => exact .gone (stage ▸ hs) (status ▸ hlast) (status ▸ h)

/-- The engine reports `s` before the loop ends a connection. -/
theorem Shown.engine (h : c.Shown up) (s : EngineStatus) (hs : c.stage.isTearingDown = false) :
    (c.report s.vpnState).Shown up := by
  obtain ⟨hne, hne'⟩ := s.vpnState_ne
  cases h with
  | going hg h => exact .going hg (h.report hne hne')
  | ending he hcurrent h => exact .ending he hcurrent (StatusFeed.notMem_report h hne)
  | down hd | low hd | gone hd => rcases hd with hd | hd <;> rw [hd] at hs <;> cases hs

/-- Until the loop ends, the state `s` that it reports is no end. -/
theorem ne_of_deed? {s : VpnState} (hs : c.stage.isEnding = false)
    (h : c.deed? m = some (.report s)) : s ≠ .disconnecting ∧ s ≠ .disconnected := by
  unfold deed? at h
  split at h
  · split at h
    case h_1 hstage | h_3 hstage =>
      rw [hstage] at hs
      cases hs
    case h_6 =>
      split at h <;> cases h
    all_goals cases h <;> decide
  · cases h

/-- The loop goes on, and nothing is picked up that ends it. -/
theorem Shown.goes {up' : Bool} (hs : c.stage.isEnding = false) (h : c.status.IsGoing)
    (ht : c.taken? (.act (.advance up')) ≠ some none)
    (ha : c.advance? p up' = some c') : c'.Shown up := by
  refine .going ?_ ?_
  · rw [isEnding_move? (p := p) (m := .act (.advance up')) ha, hs]
    simpa using ht
  · rw [(does_advance? ha).status]
    cases hdeed : c.deed? (.act (.advance up')) with
    | none => exact h
    | some deed =>
      cases deed with
      | call e => exact h
      | report s =>
        obtain ⟨hne, hne'⟩ := ne_of_deed? hs hdeed
        exact h.report hne hne'

/-- The loop picks up that no connection is wanted. -/
theorem Shown.ends {up' : Bool} (h : c.status.IsGoing)
    (ht : c.taken? (.act (.advance up')) = some none) (hup : c.current.isSome = up)
    (ha : c.advance? p up' = some c') : c'.Shown up := by
  obtain ⟨hs, -, -, hpending⟩ := ready_of_taken? ht
  rw [advance?, hs] at ha
  obtain ⟨target, ht', slot, rfl⟩ := look?_eq_some hs ha
  cases hpending.symm.trans ht'
  exact .ending rfl hup h.disconnecting

/-- `disconnected` is published after `disconnecting`, if the engine was `up`. -/
theorem dropLast_report_disconnected {f : StatusFeed}
    (h : up = true ∧ f.published.getLast? = some .disconnecting ∨
      up = false ∧ .disconnecting ∉ f.published) :
    (f.report .disconnected).published.dropLast.getLast? = some .disconnecting ↔ up = true := by
  rcases h with ⟨rfl, hlast⟩ | ⟨rfl, hnone⟩
  · have hnew : ¬ f.published.getLast? = some .disconnected := by
      rw [hlast]
      decide
    rw [StatusFeed.published_report, if_neg hnew, List.dropLast_concat, hlast]
    simp
  · have hnone' : .disconnecting ∉ (f.report .disconnected).published :=
      StatusFeed.notMem_report hnone (by decide)
    refine iff_of_false (fun hlast => hnone' ?_) Bool.false_ne_true
    exact List.dropLast_subset _ (List.mem_of_getLast? hlast)

/-- `advance?` leaves the stream as it is to be shown. -/
theorem Shown.advance {up' : Bool} (h : c.Shown up)
    (hpick : c.taken? (.act (.advance up')) = some none → c.current.isSome = up)
    (ha : c.advance? p up' = some c') : c'.Shown up := by
  cases h with
  | going hs h =>
    by_cases ht : c.taken? (.act (.advance up')) = some none
    · exact .ends h ht (hpick ht) ha
    · exact .goes hs h ht ha
  | ending hs hcurrent h =>
    rw [advance?, hs] at ha
    dsimp only at ha
    split at ha
    · next hnone =>
      cases ha
      rw [hnone] at hcurrent
      exact .low (.inl rfl) (.inr ⟨hcurrent.symm, h⟩)
    · next v hsome =>
      cases ha
      rw [hsome] at hcurrent
      exact .down (.inl rfl) hcurrent.symm (StatusFeed.getLast?_report ..)
  | down hs hup h =>
    rcases hs with hs | hs <;> rw [advance?, hs] at ha <;> cases ha
    · exact .down (.inr rfl) hup h
    · exact .low (.inl rfl) (.inl ⟨hup, h⟩)
  | low hs h =>
    rcases hs with hs | hs <;> rw [advance?, hs] at ha <;> cases ha
    · exact .low (.inr rfl) h
    · exact .gone (.inl rfl) (StatusFeed.getLast?_report ..) (dropLast_report_disconnected h)
  | gone hs hlast h =>
    rcases hs with hs | hs <;> rw [advance?, hs] at ha <;> cases ha
    exact .gone (.inr rfl) hlast h

theorem Shown.move? (h : c.Shown up) (hm : c.move? p m = some c')
    (hsilent : c.lateReport? m = none)
    (hpick : c.taken? m = some none → c.current.isSome = up) : c'.Shown up := by
  cases moved_of_move? hm with
  | start hs =>
    cases h with
    | going _ h => exact .going rfl h
    | ending he => cases hs.symm.trans he
    | down hd | low hd | gone hd => rcases hd with hd | hd <;> cases hs.symm.trans hd
  | request | dropHandles | descriptor => exact h.same rfl rfl rfl
  | advance up' _ ha => exact h.advance hpick ha
  | callback b =>
    cases b with
    | request r => exact h.same rfl rfl rfl
    | updateStatus code =>
      show ({ c with status := c.status.reportEngine code } : Controller).Shown up
      rw [StatusFeed.reportEngine]
      cases hcode : EngineStatus.ofCode? code with
      | none => exact h.same rfl rfl rfl
      | some s =>
        refine h.engine s (Bool.eq_false_iff.mpr fun hs => ?_)
        rw [lateReport?, if_pos hs, Move.engineReport?, hcode] at hsilent
        cases hsilent

/-! ## Runs -/

section Runs

variable {done : List Deed} {targets : List Target} {answers : List Bool} {rounds : List Round}

theorem Shown.isGoing (h : c.Shown up) (hs : c.stage.isEnding = false) : c.status.IsGoing := by
  cases h with
  | going _ h => exact h
  | ending he =>
    rw [he] at hs
    cases hs
  | down hd | low hd | gone hd => rcases hd with hd | hd <;> rw [hd] at hs <;> cases hs

/-- The rounds before the one in which no connection was wanted say whether the engine was up. -/
theorem Chronicled.shown_move? (h : Chronicled c done targets answers rounds)
    (hshown : c.Shown (Round.lastUp rounds.dropLast)) (hm : c.move? p m = some c')
    (hsilent : c.lateReport? m = none) :
    c'.Shown (Round.lastUp (Round.after rounds (c.taken? m) (c.answered? m)).dropLast) := by
  by_cases hending : c.stage.isEnding = true
  · have ht := taken?_of_isEnding hending m
    have ha : c.answered? m = none := by
      unfold answered?
      split
      · cases hs : c.stage <;> first | rfl | (rw [hs] at hending; cases hending)
      · rfl
    rw [ht, ha, Round.after_none]
    exact hshown.move? hm hsilent fun hpick => by cases ht.symm.trans hpick
  · have hending : c.stage.isEnding = false := Bool.eq_false_iff.mpr hending
    refine Shown.move? (.going hending (hshown.isGoing hending)) hm hsilent fun hpick => ?_
    obtain ⟨hs, up, rfl, -⟩ := ready_of_taken? hpick
    have ha : c.answered? (.act (.advance up)) = none := by
      rw [answered?, hs]
      rfl
    rw [hpick, ha]
    show c.current.isSome = Round.lastUp (rounds ++ [Round.mk none none]).dropLast
    rw [List.dropLast_concat]
    exact h.up (by rw [hs]; rfl) hending

/-- The rounds of a run of `moves` from where `rounds` have been made, and what is shown after it,
if the engine is silent at the end. -/
theorem Chronicled.run? {silent : Prop} (h : Chronicled c done targets answers rounds)
    (hp : c.Placed) (hsilent : silent → EndsSilently p c moves)
    (hshown : silent → c.Shown (Round.lastUp rounds.dropLast)) (hd : c.run? p moves = some d) :
    d.config = c.config ∧ ∃ rounds', Chronicled d (done ++ c.deeds p moves)
        (targets ++ c.picked p moves) (answers ++ c.answers p moves) rounds' ∧
      (silent → d.Shown (Round.lastUp rounds'.dropLast)) := by
  induction moves generalizing c done targets answers rounds with
  | nil =>
    cases hd
    refine ⟨rfl, rounds, ?_, hshown⟩
    rw [show d.deeds p [] = [] from rfl, picked, Controller.answers, List.append_nil,
      List.append_nil, List.append_nil]
    exact h
  | cons m rest ih =>
    obtain ⟨c', hm, hrest⟩ := run?_cons.mp hd
    obtain ⟨hp', -, hconfig⟩ := hp.leads_move? hm
    have hshown' (hq : silent) :=
      h.shown_move? (hshown hq) hm ((endsSilently_cons hm).mp (hsilent hq)).1
    obtain ⟨hconfig', hrun⟩ := ih (h.move? hp hm) hp'
      (fun hq => ((endsSilently_cons hm).mp (hsilent hq)).2) hshown' hrest
    refine ⟨hconfig'.trans hconfig, ?_⟩
    rw [deeds_cons hm, picked_cons hm, answers_cons hm, ← List.append_assoc, ← List.append_assoc,
      ← List.append_assoc]
    exact hrun

/-- All of `rounds` but the last one are settled. -/
theorem Chronicled.isSettled_of_mem_dropLast (h : Chronicled c done targets answers rounds)
    {r : Round} (hr : r ∈ rounds.dropLast) : r.isSettled = true := by
  cases htrying : c.stage.trying? with
  | none => exact h.settled htrying r (List.dropLast_subset _ hr)
  | some q =>
    obtain ⟨past, rfl, hpast⟩ := h.last q htrying
    rw [List.dropLast_concat] at hr
    exact hpast r hr

/-- As long as it is not picked up that no connection is wanted, no end is shown. -/
theorem isGoing_run? (hs : c.stage.isEnding = false) (h : c.status.IsGoing)
    (hpicked : none ∉ c.picked p moves) (hd : c.run? p moves = some d) : d.status.IsGoing := by
  induction moves generalizing c with
  | nil =>
    cases hd
    exact h
  | cons m rest ih =>
    obtain ⟨c', hm, hrest⟩ := run?_cons.mp hd
    rw [picked_cons hm, List.mem_append, not_or, Option.mem_toList] at hpicked
    have hs' : c'.stage.isEnding = false := by
      rw [isEnding_move? hm, hs]
      simpa using hpicked.1
    have htearing : ¬ c.stage.isTearingDown = true := by
      intro htearing
      rw [Stage.isEnding_of_isTearingDown htearing] at hs
      cases hs
    have hshown : c'.Shown true :=
      Shown.move? (.going hs h) hm (if_neg htearing) fun hpick => absurd hpick hpicked.1
    exact ih hs' (hshown.isGoing hs') hpicked.2 hrest

end Runs

/-- In every run the states that are published are those that the loop and the engine report, in
order and without repetitions, after `disconnected`. The loop does what its rounds demand: it
reports `connecting` when it starts an attempt, `error` when it gives the attempt up (the subnets
cannot be read, the engine does not come up, a password is missing), `disconnecting` when it takes
the engine down and no attempt follows, and `disconnected` when it ends. So before the loop ends
neither of the last two is published again, and when it has ended and the engine was silent at the
end, the last state is `disconnected`, after `disconnecting` if and only if the engine was still
up. -/
theorem status_stream {config : ServiceConfig} {supported : Capabilities}
    (hd : (create config supported).run? p moves = some d) :
    d.status.published =
      (.disconnected :: (create config supported).reported p moves).destutter (· ≠ ·) ∧
    d.status.published.IsChain (· ≠ ·) ∧ d.status.published.head? = some .disconnected ∧
    (∃ rounds : List Round,
      rounds.map Round.target = (create config supported).picked p moves ∧
      rounds.filterMap Round.answer = (create config supported).answers p moves ∧
      (create config supported).deeds p moves ++ d.duty = Round.chronicle config false rounds ∧
      ((create config supported).deeds p moves).filterMap Deed.call? = d.calls ∧
      (∀ r ∈ rounds.dropLast, r.isSettled = true) ∧
      (d.stage = .stopped → rounds.getLast? = some { target := none } ∧ d.duty = [] ∧
        (∀ r ∈ rounds, r.isSettled = true) ∧
        ((create config supported).EndsSilently p moves →
          d.status.published.getLast? = some .disconnected ∧
          (d.status.published.dropLast.getLast? = some .disconnecting ↔
            Round.lastUp rounds.dropLast = true)))) ∧
    (none ∉ (create config supported).picked p moves →
      .disconnecting ∉ d.status.published ∧ .disconnected ∉ d.status.published.tail) := by
  have hstream : d.status.published =
      (.disconnected :: (create config supported).reported p moves).destutter (· ≠ ·) := by
    rw [status_run? hd, StatusFeed.published_foldl_report (a := .disconnected) rfl]
    rfl
  -- The rounds of the run carry what the loop has done and what the stream ends with.
  obtain ⟨hconfig, rounds, h, hshown⟩ := (chronicled_create config supported).run?
    (placed_create config supported) id (fun _ => shown_create config supported) hd
  refine ⟨hstream, hstream ▸ List.isChain_destutter .., ?_, ⟨rounds, h.targets, h.answers, ?_,
    ?_, fun r hr => ?_, fun hs => ⟨h.ended (by rw [hs]; rfl), ?_, h.settled (by rw [hs]; rfl),
    fun hsilent => ?_⟩⟩, fun hpicked => ?_⟩
  · rw [hstream, List.destutter_cons', StatusFeed.head?_destutter']
  · have hdeeds := h.deeds
    rwa [hconfig] at hdeeds
  · exact (calls_run? hd).symm
  · exact h.isSettled_of_mem_dropLast hr
  · rw [duty_eq hs]
    rfl
  · cases hshown hsilent with
    | gone _ hlast hbefore => exact ⟨hlast, hbefore⟩
    | going hg => rw [hs] at hg; cases hg
    | ending he => cases hs.symm.trans he
    | down he | low he => rcases he with he | he <;> cases hs.symm.trans he
  · have hshown : (create config supported).Shown true := shown_create config supported
    have hgoing := isGoing_run? rfl (hshown.isGoing rfl) hpicked hd
    exact ⟨hgoing.disconnecting, hgoing.disconnected⟩

/-- An attempt that is given up, one for which the engine comes up and reports codes with and
without a meaning, and the end. -/
def untilShown : List Move :=
  [.start, .act (.request (some brokenProfile))] ++ List.replicate 7 .next ++
    [.act (.request (some plainProfile))] ++ List.replicate 10 .next ++
    [.act (.callback (.updateStatus 2)), .act (.callback (.updateStatus 1)),
      .act (.callback (.updateStatus 42)), .act (.callback (.updateStatus 1)),
      .act (.request none)] ++ List.replicate 7 .next

/-- The stream of `untilShown`: of an attempt that is given up, one that succeeds, and the end. -/
theorem status_stream_untilShown :
    ∃ (d : Controller) (rounds : List Round), (create {} {}).run? .agreeing untilShown = some d ∧
      d.status.published =
        [.disconnected, .connecting, .error, .connecting, .connected, .disconnecting,
          .disconnected] ∧
      rounds.map Round.target = [some brokenProfile, some plainProfile, none] ∧
      (create {} {}).deeds .agreeing untilShown = Round.chronicle {} false rounds ∧
      d.status.published.getLast? = some .disconnected ∧
      d.status.published.dropLast.getLast? = some .disconnecting ∧
      Round.lastUp rounds.dropLast = true := by
  obtain ⟨d, hd, hs⟩ : ∃ d, (create {} {}).run? .agreeing untilShown = some d ∧
      d.stage = .stopped := ⟨_, Option.eq_some_of_isSome (by decide +kernel), by decide +kernel⟩
  have hpicked : (create {} {}).picked .agreeing untilShown =
      [some brokenProfile, some plainProfile, none] := by decide +kernel
  have hreported : (create {} {}).reported .agreeing untilShown =
      [.connecting, .error, .connecting, .connecting, .connected, .connected, .disconnecting,
        .disconnected] := by decide +kernel
  have hsilent : (create {} {}).EndsSilently .agreeing untilShown := by decide +kernel
  obtain ⟨hstream, -, -, ⟨rounds, htargets, -, hdeeds, -, -, hstopped⟩, -⟩ := status_stream hd
  obtain ⟨-, hduty, -, hend⟩ := hstopped hs
  obtain ⟨hlast, hbefore⟩ := hend hsilent
  rw [hreported] at hstream
  have hdisconnecting : d.status.published.dropLast.getLast? = some .disconnecting := by
    rw [hstream]
    decide
  rw [hduty, List.append_nil] at hdeeds
  exact ⟨d, rounds, hd, hstream.trans (by decide), htargets.trans hpicked, hdeeds, hlast,
    hdisconnecting, hbefore.mp hdisconnecting⟩

end Controller

end SplitTunnel
