import SplitTunnel.Proofs.Drain

/-!
# What a reader counts, and why it exits (`SPEC_FULL.md` §4.4, `PacketDropper`)

The descriptor is a stream here, and its two ends and the owner act in any order: the other side
writes and goes away, the owner asks the reader to stop, and the reader waits and reads, is
interrupted and fails.

* `Drain.run?`: the drain after actions in a row.
* `Drain.Tallied`: what has happened can be read off the drain. Nothing that was written is lost:
  it has been counted, or it is still queued.
* `Drain.Tallied.cause`: a reader that exits was asked to, or its descriptor failed it, or it has
  counted everything that will ever be written.
* `Drain.reads_le`: a reader that has been asked to stop finishes the read that it is about to do
  and begins no other.
* `Drain.run_tally`: all of this for the reader of an open stream.
-/

namespace SplitTunnel.Drain

variable {d d' : Drain} {a : Action} {past future : List Action}

/-- `d` after the actions, if each of them can happen when it is due. -/
def run? (d : Drain) : List Action → Option Drain
  | [] => some d
  | a :: actions => (d.step? a).bind (run? · actions)

/-- What is so at `d` and stays so at every `step?` is so wherever `run?` leads. The run so far,
`past`, is part of it. -/
theorem run?_induction {P : Drain → List Action → Prop}
    (step : ∀ {d d' a past}, P d past → d.step? a = some d' → P d' (past ++ [a]))
    (h : P d past) (hrun : d.run? future = some d') : P d' (past ++ future) := by
  induction future generalizing d past with
  | nil =>
    cases hrun
    rwa [List.append_nil]
  | cons a future ih =>
    obtain ⟨d₁, hs, hrest⟩ := Option.bind_eq_some_iff.mp hrun
    rw [List.append_cons]
    exact ih (step h hs) hrest

/-! ## The tally -/

/-- The bytes that an action puts into the descriptor. -/
def Action.written : Action → Nat
  | .write n => n
  | _ => 0

/-- The bytes that the other side has written. -/
def written : List Action → Nat
  | [] => 0
  | a :: actions => a.written + written actions

@[simp] theorem written_concat : written (past ++ [a]) = written past + a.written := by
  induction past with
  | nil => simp [written]
  | cons b rest ih => rw [List.cons_append, written, ih, written, Nat.add_assoc]

/-- The run `past` can be read off `d`: how much was written, whether the other side has gone, and
whether a stop was requested. -/
structure Tallied (d : Drain) (past : List Action) : Prop where
  source : ∃ queued, d.source = .stream queued (decide (.hangUp ∈ past))
  tally : d.counted + d.source.pending = written past
  stopRequested : d.stopRequested = true ↔ .requestStop ∈ past
  ready : d.Ready

theorem tallied_start (mtu : Nat) : (start (.stream 0 false) mtu).Tallied [] :=
  ⟨⟨0, rfl⟩, rfl, by simp [start], (rests_start _ mtu).ready⟩

theorem Tallied.step? (h : d.Tallied past) (hs : d.step? a = some d') :
    d'.Tallied (past ++ [a]) := by
  obtain ⟨queued, hsource⟩ := h.source
  have htally : d.counted + queued = written past := by
    simpa only [hsource, Source.pending] using h.tally
  have hready := h.ready.step? hs
  have hstop : a ≠ .requestStop →
      (d'.stopRequested = true ↔ .requestStop ∈ past ++ [a]) := fun ha => by
    rw [stopRequested_step? ha hs, h.stopRequested]
    simp [ha.symm]
  cases steps_of_step? hs with
  | @write n s hp hw =>
    rw [hsource] at hw
    -- nobody writes once the other side has gone
    cases hended : decide (Action.hangUp ∈ past) with
    | true => rw [hended] at hw; cases hw
    | false =>
      rw [hended] at hw
      cases hw
      refine ⟨⟨queued + n, by simpa using hended⟩, ?_, hstop (by simp), hready⟩
      simp only [Source.pending, written_concat, Action.written]
      omega
  | hangUp hp =>
    refine ⟨⟨queued, by simp [hsource, Source.hangUp]⟩, ?_, hstop (by simp), hready⟩
    simpa [hsource, Source.hangUp, Source.pending, Action.written] using htally
  | requestStop =>
    exact ⟨⟨queued, by simp [hsource]⟩, by simpa [Action.written] using h.tally, by simp, hready⟩
  | @read n s hp ht =>
    rw [hsource, Source.take?] at ht
    split at ht
    · cases ht
      refine ⟨⟨queued - n, by simp⟩, ?_, hstop (by simp), hready⟩
      simp only [Source.pending, written_concat, Action.written]
      omega
    · cases ht
  | wake | interruptWait | failWait | readEnd | interruptRead | failRead =>
    exact ⟨⟨queued, by simp [hsource]⟩, by simpa [Action.written] using h.tally,
      hstop (by simp), hready⟩

theorem Tallied.run? (h : d.Tallied past) (hrun : d.run? future = some d') :
    d'.Tallied (past ++ future) :=
  run?_induction Tallied.step? h hrun

/-! ## The exit -/

/-- If the other side has gone and nothing is `pending`, everything has been counted. -/
theorem Tallied.counted (h : d.Tallied past) (hp : d.source.pending = 0) :
    d.counted = written past := by
  rw [← h.tally, hp, Nat.add_zero]

theorem Tallied.hangUp_mem (h : d.Tallied past) (he : d.source.isEnded = true) :
    .hangUp ∈ past := by
  obtain ⟨queued, hsource⟩ := h.source
  simpa [hsource, Source.isEnded] using he

/-- A report `r` that ends the reader's work says that a stop was requested, or that the other side
is gone and nothing is `pending`: what can be read goes before the end. -/
theorem mayReport_exits {r : Report} (hr : d.mayReport r = true) (he : heed r = .exited) :
    d.stopRequested = true ∨ d.source.isEnded = true ∧ d.source.pending = 0 := by
  simp only [mayReport, Bool.and_eq_true, Bool.or_eq_true, Bool.not_eq_true', beq_iff_eq] at hr
  obtain ⟨⟨⟨⟨hstop, -⟩, hended⟩, hpending⟩, -⟩ := hr
  unfold heed at he
  split at he
  · next hs => exact .inl (hstop ▸ hs)
  · split at he
    · cases he
    · next hreadable =>
      split at he
      · next hr =>
        exact .inr ⟨hended.resolve_left (by simp [hr]), hpending.resolve_right hreadable⟩
      · cases he

/-- Why a reader `d` exits: one of four causes. -/
theorem Tallied.cause (h : d.Tallied past) (halive : d.isAlive = true) (hs : d.step? a = some d')
    (hexit : d'.isAlive = false) :
    .requestStop ∈ past ∨ a = .failWait ∨ a = .failRead ∨
      .hangUp ∈ past ∧ d.source.pending = 0 ∧ d.counted = written past := by
  have hp : d.phase ≠ .exited := bne_iff_ne.mp halive
  have hp' : d'.phase = .exited := by simpa [isAlive] using hexit
  cases steps_of_step? hs with
  | write | hangUp | requestStop | interruptWait => exact absurd hp' hp
  | wake _ hr =>
    obtain hstop | ⟨hended, hpending⟩ := mayReport_exits hr hp'
    · exact .inl (h.stopRequested.mp hstop)
    · exact .inr (.inr (.inr ⟨h.hangUp_mem hended, hpending, h.counted hpending⟩))
  | failWait => exact .inr (.inl rfl)
  | readEnd _ he =>
    obtain ⟨queued, hsource⟩ := h.source
    obtain ⟨rfl, hended⟩ : queued = 0 ∧ Action.hangUp ∈ past := by
      simpa [hsource, Source.isAtEnd] using he
    have hpending : d.source.pending = 0 := by rw [hsource, Source.pending]
    exact .inr (.inr (.inr ⟨hended, hpending, h.counted hpending⟩))
  | failRead => exact .inr (.inr (.inl rfl))
  | read | interruptRead => cases hp'

/-- What is `pending` is read before anything else is heeded but a stop. -/
theorem heed_of_pending {r : Report} (hstop : d.stopRequested = false)
    (hpending : d.source.pending ≠ 0) (hr : d.mayReport r = true) : heed r = .reading := by
  simp only [mayReport, hstop, hpending, Bool.and_eq_true, Bool.or_eq_true, beq_iff_eq,
    false_or] at hr
  obtain ⟨⟨⟨⟨hs, -⟩, -⟩, hreadable⟩, -⟩ := hr
  simp [heed, hs, hreadable]

/-! ## The stop -/

/-- The action is the outcome of a read. -/
def Action.isRead : Action → Bool
  | .read _ | .readEnd | .interruptRead | .failRead => true
  | _ => false

/-- The reads that a reader that has been asked to stop has begun and not finished. -/
def DrainPhase.begun : DrainPhase → Nat
  | .reading => 1
  | .waiting | .exited => 0

theorem begun_step? (hstop : d.stopRequested = true) (hs : d.step? a = some d') :
    DrainPhase.begun d'.phase + (if a.isRead then 1 else 0) ≤ DrainPhase.begun d.phase := by
  cases steps_of_step? hs with
  | @wake r hp hr =>
    have hr : r.stopRequested = true := by
      simp only [mayReport, Bool.and_eq_true, beq_iff_eq] at hr
      rw [hr.1.1.1.1, hstop]
    simp [heed, hr, DrainPhase.begun, Action.isRead]
  | _ => simp_all [DrainPhase.begun, Action.isRead]

/-- `stopRequested` is never taken back. -/
theorem stopRequested_mono (hstop : d.stopRequested = true) (hs : d.step? a = some d') :
    d'.stopRequested = true := by
  by_cases ha : a = .requestStop
  · subst ha
    cases steps_of_step? hs
    rfl
  · rw [stopRequested_step? ha hs, hstop]

/-- A reader `d` that has been asked to stop does the read that it has begun and no other, whatever
`future` brings. -/
theorem reads_le (hstop : d.stopRequested = true) (hrun : d.run? future = some d') :
    future.countP Action.isRead ≤ DrainPhase.begun d.phase := by
  induction future generalizing d with
  | nil => simp
  | cons a future ih =>
    obtain ⟨d₁, hs, hrest⟩ := Option.bind_eq_some_iff.mp hrun
    have hstep := begun_step? hstop hs
    have hreads := ih (stopRequested_mono hstop hs) hrest
    rw [List.countP_cons]
    omega

theorem reads_le_one (hstop : d.stopRequested = true) (hrun : d.run? future = some d') :
    future.countP Action.isRead ≤ 1 := by
  refine Nat.le_trans (reads_le hstop hrun) ?_
  cases d.phase <;> simp [DrainPhase.begun]

/-- A reader `d` that has been asked to stop and has not exited need not wait for anything. -/
theorem Ready.isSome_advance? (h : d.Ready) (hstop : d.stopRequested = true)
    (halive : d.isAlive = true) : d.advance?.isSome = true := by
  cases hnext : d.advance? with
  | some d₁ => rfl
  | none =>
    have hrests := h.rests hnext
    cases hp : d.phase with
    | waiting => rw [advance?_of_stopRequested hp hstop] at hnext; cases hnext
    | reading => exact absurd hp hrests.phase
    | exited => simp [isAlive, hp] at halive

theorem advance?_settle (d : Drain) : d.settle.advance? = none := by
  induction d using Drain.settle.induct with
  | case1 d hd => rwa [settle_of_none hd]
  | case2 d d' hd ih => rwa [settle_of_some hd]

/-- `Drain.stop`, which asks the reader to stop and waits for it, leaves it exited, also from the
middle of a read. -/
theorem Ready.isAlive_stop (h : d.Ready) : d.stop.isAlive = false := by
  refine Bool.eq_false_iff.mpr fun halive => ?_
  have hasked : ({ d with stopRequested := true } : Drain).Ready := ⟨h.buffer, h.source⟩
  have hsome := hasked.settle.ready.isSome_advance? (stopRequested_settle _) halive
  rw [advance?_settle] at hsome
  cases hsome

/-! ## The whole run -/

/-- An interruption `a` changes neither `counted` nor `source`, and the reader goes on. -/
theorem isAlive_interrupt (ha : a = .interruptWait ∨ a = .interruptRead)
    (hs : d.step? a = some d') :
    d'.isAlive = true ∧ d'.counted = d.counted ∧ d'.source = d.source := by
  obtain rfl | rfl := ha
  · cases steps_of_step? hs with
    | interruptWait hp => exact ⟨by simp [isAlive, hp], rfl, rfl⟩
  · cases steps_of_step? hs
    exact ⟨rfl, rfl, rfl⟩

/-- The reader `d` of an open stream, wherever a run of actions `past` has led it:

* the bytes it has counted and the bytes still queued make up all bytes written;
* it exits because it was asked to, because a wait or a read failed, or because the other side has
  gone and it has counted everything that was written;
* while bytes are queued and no stop was requested, a wait leads to a read, also when the wait
  reports that the other side has gone;
* an interruption does not end it, and loses nothing;
* from a request to stop on it reads at most once more, whatever else happens, and until it has
  exited it need not wait for anything;
* it has exited when its owner has asked it to stop and waited for it. -/
theorem run_tally {mtu : Nat} (hrun : (start (.stream 0 false) mtu).run? past = some d) :
    d.counted + d.source.pending = written past ∧
      (∀ a d', d.isAlive = true → d.step? a = some d' → d'.isAlive = false →
        .requestStop ∈ past ∨ a = .failWait ∨ a = .failRead ∨
          .hangUp ∈ past ∧ d.source.pending = 0 ∧ d.counted = written past) ∧
      (∀ r d', .requestStop ∉ past → d.source.pending ≠ 0 → d.step? (.wake r) = some d' →
        d'.phase = .reading) ∧
      (∀ a d', a = .interruptWait ∨ a = .interruptRead → d.step? a = some d' →
        d'.isAlive = true ∧ d'.counted = d.counted ∧ d'.source = d.source) ∧
      (.requestStop ∈ past → ∀ future d', d.run? future = some d' →
        future.countP Action.isRead ≤ 1 ∧
          (d'.isAlive = true → d'.advance?.isSome = true)) ∧
      d.stop.isAlive = false := by
  have h : d.Tallied past := (tallied_start mtu).run? hrun
  refine ⟨h.tally, fun a d' => h.cause, fun r d' hstop hpending hs => ?_,
    fun a d' => isAlive_interrupt, fun hstop future d' hfuture => ?_, h.ready.isAlive_stop⟩
  · cases steps_of_step? hs with
    | wake hp hr =>
      exact heed_of_pending (Bool.eq_false_iff.mpr fun hs => hstop (h.stopRequested.mp hs))
        hpending hr
  -- What can be read off the reader holds wherever the later actions lead, too.
  · have hafter := h.run? hfuture
    exact ⟨reads_le_one (h.stopRequested.mpr hstop) hfuture, hafter.ready.isSome_advance?
      (hafter.stopRequested.mpr (List.mem_append_left future hstop))⟩

/-- The other side writes 3 bytes and goes away while the reader of an interface for packets of no
size, whose `buffer` holds one byte, is interrupted: the reader is asked to stop with one byte
counted and two queued. -/
theorem run_tally_hangUp :
    let past : List Action := [.write 3, .hangUp, .interruptWait, .wake ⟨true, true, false⟩,
      .interruptRead, .wake ⟨true, true, false⟩, .read 1, .wake ⟨true, true, false⟩, .requestStop]
    let d : Drain := ⟨1, .stream 2 true, true, .reading, 1⟩
    (start (.stream 0 false) 0).run? past = some d ∧ d.counted + d.source.pending = written past ∧
      d.stop.isAlive = false := by
  intro past d
  have hrun : (start (.stream 0 false) 0).run? past = some d := by decide
  have h := run_tally hrun
  exact ⟨hrun, h.1, h.2.2.2.2.2⟩

end SplitTunnel.Drain
