import SplitTunnel.Drain

/-!
# A reader goes on until it is stopped or its descriptor fails (`SPEC_FULL.md` §4.4)

* `Drain.Steps`: what each action does when it happens.
* `Drain.stopRequested_act?`: nobody but the owner asks the reader to stop.
* `Drain.Runs`: nobody has stopped the reader, and the other side is still there.
* `Drain.Action.isTraffic`: what happens at a descriptor that works and is read.
* `Drain.Runs.act?`: traffic keeps the reader running.
* `Drain.Rests`: the reader waits or has exited. Whatever happens, it comes back to that
  (`Drain.Rests.act?`), and it has exited once it has been stopped (`Drain.Rests.isAlive_stop`).
-/

namespace SplitTunnel.Drain

variable {d d' : Drain} {a : Action}

/-- `Steps d a d'`: the action `a` takes `d` to `d'`, with what `d` was about to do when it
happened. -/
inductive Steps (d : Drain) : Action → Drain → Prop where
  | write {n : Nat} {s : Source} (hp : d.phase ≠ .exited) (hw : d.source.write? n = some s) :
      Steps d (.write n) { d with source := s }
  | hangUp (hp : d.phase ≠ .exited) : Steps d .hangUp { d with source := d.source.hangUp }
  | requestStop : Steps d .requestStop { d with stopRequested := true }
  | wake {r : Report} (hp : d.phase = .waiting) (hr : d.mayReport r = true) :
      Steps d (.wake r) { d with phase := heed r }
  | interruptWait (hp : d.phase = .waiting) : Steps d .interruptWait d
  | failWait (hp : d.phase = .waiting) : Steps d .failWait { d with phase := .exited }
  | read {n : Nat} {s : Source} (hp : d.phase = .reading)
      (ht : d.source.take? d.buffer n = some s) :
      Steps d (.read n) { d with source := s, phase := .waiting, counted := d.counted + n }
  | readEnd (hp : d.phase = .reading) (he : d.source.isAtEnd = true) :
      Steps d .readEnd { d with phase := .exited }
  | interruptRead (hp : d.phase = .reading) : Steps d .interruptRead { d with phase := .waiting }
  | failRead (hp : d.phase = .reading) : Steps d .failRead { d with phase := .exited }

theorem steps_of_step? (hs : d.step? a = some d') : d.Steps a d' := by
  unfold step? at hs
  split at hs
  case h_1 n hp | h_2 n hp =>
    obtain ⟨s, hw, rfl⟩ := Option.map_eq_some_iff.mp hs
    exact .write (by simp [hp]) hw
  case h_3 hp | h_4 hp =>
    cases hs
    exact .hangUp (by simp [hp])
  case h_5 =>
    cases hs
    exact .requestStop
  case h_6 r hp =>
    split at hs <;> cases hs
    next hr => exact .wake hp hr
  case h_7 hp =>
    cases hs
    exact .interruptWait hp
  case h_8 hp =>
    cases hs
    exact .failWait hp
  case h_9 n hp =>
    obtain ⟨s, ht, rfl⟩ := Option.map_eq_some_iff.mp hs
    exact .read hp ht
  case h_10 hp =>
    split at hs <;> cases hs
    next he => exact .readEnd hp he
  case h_11 hp =>
    cases hs
    exact .interruptRead hp
  case h_12 hp =>
    cases hs
    exact .failRead hp
  case h_13 => cases hs

theorem stopRequested_step? (ha : a ≠ .requestStop) (hs : d.step? a = some d') :
    d'.stopRequested = d.stopRequested := by
  cases steps_of_step? hs with
  | requestStop => exact absurd rfl ha
  | _ => rfl

theorem next?_ne_requestStop (d : Drain) : d.next? ≠ some .requestStop := by
  unfold next?
  split
  · split <;> simp
  · split
    · simp
    · split <;> simp
  · simp

theorem stopRequested_settle (d : Drain) : d.settle.stopRequested = d.stopRequested := by
  induction d using settle.induct with
  | case1 d hd => rw [settle_of_none hd]
  | case2 d d' hd ih =>
    rw [settle_of_some hd, ih]
    obtain ⟨a, ha, hs⟩ := Option.bind_eq_some_iff.mp hd
    refine stopRequested_step? ?_ hs
    rintro rfl
    exact d.next?_ne_requestStop ha

/-- `stopRequested` is not up to what happens at the descriptor. -/
theorem stopRequested_act? (ha : a ≠ .requestStop) (hs : d.act? a = some d') :
    d'.stopRequested = d.stopRequested := by
  obtain ⟨d₁, hd₁, rfl⟩ := Option.map_eq_some_iff.mp hs
  rw [stopRequested_settle, stopRequested_step? ha hd₁]

/-! ## Traffic -/

/-- The action neither stops the reader nor says that its descriptor is of no use any more. -/
def Action.isTraffic : Action → Bool
  | .hangUp | .requestStop | .failWait | .failRead => false
  | _ => true

/-- The reader `d` has not exited, nobody has asked it to, and the other side may still write. -/
structure Runs (d : Drain) : Prop where
  phase : d.phase ≠ .exited
  stopRequested : d.stopRequested = false
  source : ∃ queued, d.source = .stream queued false

theorem Runs.isAlive (h : d.Runs) : d.isAlive = true := bne_iff_ne.mpr h.phase

theorem runs_start (queued mtu : Nat) : (start (.stream queued false) mtu).Runs :=
  ⟨by simp [start], rfl, queued, rfl⟩

/-- A report `r` about a reader that runs leads to no exit: it says neither that a stop was
requested nor that the other side is gone. -/
theorem Runs.heed_ne_exited {r : Report} (h : d.Runs) (hr : d.mayReport r = true) :
    heed r ≠ .exited := by
  obtain ⟨queued, hsource⟩ := h.source
  simp only [mayReport, h.stopRequested, hsource, Source.isEnded, Bool.and_eq_true,
    Bool.or_false, beq_iff_eq, Bool.not_eq_true'] at hr
  obtain ⟨⟨⟨⟨hstop, -⟩, hended⟩, -⟩, -⟩ := hr
  rw [heed, hstop, hended]
  cases r.readable <;> simp

/-- One action `a` of the traffic keeps a reader running. -/
theorem Runs.step? (h : d.Runs) (ha : a.isTraffic = true) (hs : d.step? a = some d') :
    d'.Runs := by
  obtain ⟨queued, hsource⟩ := h.source
  cases steps_of_step? hs with
  | @write n s hp hw =>
    rw [hsource] at hw
    cases hw
    exact ⟨h.phase, h.stopRequested, queued + n, rfl⟩
  | wake hp hr => exact ⟨h.heed_ne_exited hr, h.stopRequested, queued, hsource⟩
  | interruptWait hp => exact h
  | @read n s hp ht =>
    rw [hsource, Source.take?] at ht
    split at ht <;> cases ht
    exact ⟨by simp, h.stopRequested, queued - n, rfl⟩
  | readEnd hp he => simp [hsource, Source.isAtEnd] at he
  | interruptRead hp => exact ⟨by simp, h.stopRequested, queued, hsource⟩
  | hangUp | requestStop | failWait | failRead => cases ha

/-- What `next?` has a reader do that runs is traffic. -/
theorem Runs.isTraffic_of_next? (h : d.Runs) (hn : d.next? = some a) : a.isTraffic = true := by
  obtain ⟨queued, hsource⟩ := h.source
  unfold next? at hn
  split at hn
  · split at hn <;> cases hn
    rfl
  · rw [hsource] at hn
    split at hn <;> cases hn <;> rfl
  · cases hn

theorem Runs.settle (h : d.Runs) : d.settle.Runs := by
  induction d using Drain.settle.induct with
  | case1 d hd => rwa [settle_of_none hd]
  | case2 d d' hd ih =>
    rw [settle_of_some hd]
    obtain ⟨a, ha, hs⟩ := Option.bind_eq_some_iff.mp hd
    exact ih (h.step? (h.isTraffic_of_next? ha) hs)

/-- One action `a` of the traffic, and what the reader does about it, keep it running. -/
theorem Runs.act? (h : d.Runs) (ha : a.isTraffic = true) (hs : d.act? a = some d') : d'.Runs := by
  obtain ⟨d₁, hd₁, rfl⟩ := Option.map_eq_some_iff.mp hs
  exact (h.step? ha hd₁).settle

/-! ## Rest -/

/-- The reader `d` waits or has exited. -/
structure Rests (d : Drain) : Prop where
  buffer : 0 < d.buffer
  phase : d.phase ≠ .reading

/-- If `d` is about to read, it need not wait for it. -/
structure Ready (d : Drain) : Prop where
  buffer : 0 < d.buffer
  source : d.phase = .reading → d.source.isReadable = true

theorem Rests.ready (h : d.Rests) : d.Ready := ⟨h.buffer, fun hp => absurd hp h.phase⟩

theorem rests_start (source : Source) (mtu : Nat) : (start source mtu).Rests :=
  ⟨Nat.lt_of_lt_of_le Nat.zero_lt_one (Nat.le_max_right mtu 1), by simp [start]⟩

theorem isReadable_write? {s s' : Source} {n : Nat} (h : s.write? n = some s')
    (hs : s.isReadable = true) : s'.isReadable = true := by
  cases s with
  | stream queued ended =>
    cases ended <;> cases h
    simp only [Source.isReadable, Bool.or_false, bne_iff_ne] at hs ⊢
    omega
  | packets queued ended =>
    cases ended <;> cases h
    simp [Source.isReadable]
  | failing => cases h
  | hungUp => cases h

theorem isReadable_hangUp {s : Source} (hs : s.isReadable = true) :
    s.hangUp.isReadable = true := by
  cases s with
  | stream queued ended => simp [Source.hangUp, Source.isReadable]
  | packets queued ended => simp [Source.hangUp, Source.isReadable]
  | failing => rfl
  | hungUp => cases hs

theorem isReadable_of_heed {r : Report} (hr : d.mayReport r = true) (hp : heed r = .reading) :
    d.source.isReadable = true := by
  have hreadable : r.readable = true := by
    unfold heed at hp
    split at hp
    · cases hp
    · split at hp
      · assumption
      · split at hp <;> cases hp
  simp only [mayReport, hreadable, Bool.and_eq_true] at hr
  simpa using hr.1.1.1.2

theorem Ready.step? (h : d.Ready) (hs : d.step? a = some d') : d'.Ready := by
  cases steps_of_step? hs with
  | write hp hw => exact ⟨h.buffer, fun hp' => isReadable_write? hw (h.source hp')⟩
  | hangUp hp => exact ⟨h.buffer, fun hp' => isReadable_hangUp (h.source hp')⟩
  | requestStop | interruptWait hp => exact ⟨h.buffer, h.source⟩
  | wake hp hr => exact ⟨h.buffer, isReadable_of_heed hr⟩
  | failWait | read | readEnd | interruptRead | failRead => exact ⟨h.buffer, nofun⟩

theorem isSome_take? {s : Source} {buffer : Nat} (hb : 0 < buffer) (hr : s.isReadable = true)
    (he : s.isAtEnd = false) (hf : s ≠ .failing) :
    (s.take? buffer (s.available buffer)).isSome = true := by
  cases s with
  | stream queued ended =>
    have hq : 0 < queued := by
      cases queued with
      | zero => simp_all [Source.isReadable, Source.isAtEnd]
      | succ n => exact Nat.succ_pos n
    have hn : 0 < min buffer queued ∧ min buffer queued ≤ buffer ∧ min buffer queued ≤ queued := by
      omega
    simp [Source.take?, Source.available, hn]
  | packets queued ended =>
    cases queued with
    | nil => simp_all [Source.isReadable, Source.isAtEnd]
    | cons m rest =>
      have hm : 0 < m := Nat.pos_of_ne_zero fun hm => by simp [Source.isAtEnd, hm] at he
      have hn : 0 < min buffer m := by omega
      simp [Source.take?, Source.available, hn]
  | failing => exact absurd rfl hf
  | hungUp => cases hr

/-- A reader for which `advance?` has nothing to do without waiting is not about to read. -/
theorem Ready.rests (h : d.Ready) (hd : d.advance? = none) : d.Rests := by
  refine ⟨h.buffer, fun hp => ?_⟩
  have hr := h.source hp
  simp only [advance?, next?, hp] at hd
  split at hd
  · next he => simp [Drain.step?, hp, he] at hd
  · next he =>
    split at hd
    · simp [Drain.step?, hp] at hd
    · next hf =>
      have ht := isSome_take? h.buffer hr (Bool.eq_false_iff.mpr he) hf
      simp only [Option.bind_some, Drain.step?, hp, Option.map_eq_none_iff] at hd
      simp [hd] at ht

theorem Ready.settle (h : d.Ready) : d.settle.Rests := by
  induction d using Drain.settle.induct with
  | case1 d hd =>
    rw [settle_of_none hd]
    exact h.rests hd
  | case2 d d' hd ih =>
    rw [settle_of_some hd]
    obtain ⟨a, -, hs⟩ := Option.bind_eq_some_iff.mp hd
    exact ih (h.step? hs)

/-- `a` happens, and then the reader rests again. -/
theorem Rests.act? (h : d.Rests) (hs : d.act? a = some d') : d'.Rests := by
  obtain ⟨d₁, hd₁, rfl⟩ := Option.map_eq_some_iff.mp hs
  exact (h.ready.step? hd₁).settle

theorem Rests.stop (h : d.Rests) : d.stop.Rests :=
  Ready.settle (d := { d with stopRequested := true }) ⟨h.buffer, h.ready.source⟩

/-- A reader that rests has exited after `Drain.stop`. -/
theorem Rests.isAlive_stop (h : d.Rests) : d.stop.isAlive = false := by
  cases hp : d.phase with
  | waiting => simp [isAlive, phase_stop hp]
  | reading => exact absurd hp h.phase
  | exited =>
    have hnone : ({ d with stopRequested := true } : Drain).advance? = none :=
      advance?_of_exited hp
    rw [Drain.stop, settle_of_none hnone]
    simp [isAlive, hp]

/-- Nothing but a useless `requestStop` happens at a reader that has exited. -/
theorem isAlive_of_act? (ha : a ≠ .requestStop) (hs : d.act? a = some d') : d.isAlive = true := by
  obtain ⟨d₁, hd₁, -⟩ := Option.map_eq_some_iff.mp hs
  refine bne_iff_ne.mpr fun hp => ?_
  cases a <;> simp [Drain.step?, hp] at hd₁ ha

end SplitTunnel.Drain
