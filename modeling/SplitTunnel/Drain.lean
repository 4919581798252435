/-!
# Drains (`SPEC_FULL.md` §4.4, `PacketDropper`)

A drain reads what arrives on a descriptor, counts it and throws it away. It waits until the
descriptor has something for it or it is asked to stop, reads once, and waits again.

* `Drain.step?`: one action of the other end, of the owner, or of the reader, if it can happen.
* `Drain.advance?`: what the reader does on its own when it need not wait.
* `Drain.settle`: the reader has done all that it can do without waiting.
* `Drain.stop`: the owner asks the reader to stop and waits for it; `phase_stop` says that a
  waiting reader is gone then, whatever is still queued.
-/

namespace SplitTunnel

/-- What is at the other side of a descriptor. -/
inductive Source where
  /-- Bytes in a row; `ended` once the writer has closed its side. -/
  | stream (queued : Nat) (ended : Bool)
  /-- Packets of the given lengths. An empty one reads like the end. -/
  | packets (queued : List Nat) (ended : Bool)
  /-- Something that says it can be read, and every read fails. -/
  | failing
  /-- Nothing to read, and nothing will come. -/
  | hungUp
deriving DecidableEq, Repr, Inhabited

namespace Source

/-- A read of the source would not wait. -/
def isReadable : Source → Bool
  | stream queued ended => queued != 0 || ended
  | packets queued ended => !queued.isEmpty || ended
  | failing => true
  | hungUp => false

/-- The other side of the source is gone. -/
def isEnded : Source → Bool
  | stream _ ended | packets _ ended => ended
  | failing => false
  | hungUp => true

/-- A read of the source would report the end. -/
def isAtEnd : Source → Bool
  | stream queued ended => queued == 0 && ended
  | packets queued ended => queued.head? == some 0 || queued.isEmpty && ended
  | failing | hungUp => false

/-- How many bytes or packets are still to be read. -/
def pending : Source → Nat
  | stream queued _ => queued
  | packets queued _ => queued.length
  | failing | hungUp => 0

/-- The most that one read with a buffer of `buffer` bytes can return. -/
def available (buffer : Nat) : Source → Nat
  | stream queued _ => min buffer queued
  | packets (n :: _) _ => min buffer n
  | packets [] _ | failing | hungUp => 0

/-- What is left after a read of `n` bytes: of a `stream` as many as are there and fit, of `packets`
the first one, of which the part that does not fit is lost. -/
def take? (buffer n : Nat) : Source → Option Source
  | stream queued ended =>
    if 0 < n ∧ n ≤ buffer ∧ n ≤ queued then some (stream (queued - n) ended) else none
  | packets (m :: rest) ended =>
    if 0 < n ∧ n = min buffer m then some (packets rest ended) else none
  | packets [] _ | failing | hungUp => none

/-- What is there after the other side has written `n` bytes. -/
def write? (n : Nat) : Source → Option Source
  | stream queued false => some (stream (queued + n) false)
  | packets queued false => some (packets (queued ++ [n]) false)
  | stream _ true | packets _ true | failing | hungUp => none

/-- What is there after the other side has gone. -/
def hangUp : Source → Source
  | stream queued _ => stream queued true
  | packets queued _ => packets queued true
  | failing => failing
  | hungUp => hungUp

end Source

/-- What the reader is about to do. -/
inductive DrainPhase where
  /-- To wait for something to happen. -/
  | waiting
  /-- To read, because there is something. -/
  | reading
  /-- Nothing more; the descriptor is closed. -/
  | exited
deriving DecidableEq, Repr, Inhabited

/-- A reader of the descriptor `source`. -/
structure Drain where
  /-- The size of the buffer. -/
  buffer : Nat
  source : Source
  stopRequested : Bool := false
  phase : DrainPhase := .waiting
  /-- The bytes read so far, as their total. The counter of a running reader has 64 bits and shows
  this number as long as it is below `2 ^ 64`. -/
  counted : Nat := 0
deriving DecidableEq, Repr, Inhabited

namespace Drain

/-- What a wait reports. -/
structure Report where
  readable : Bool
  ended : Bool
  stopRequested : Bool
deriving DecidableEq, Repr

/-- Something that happens at a drain. -/
inductive Action where
  /-- The other side writes `n` bytes. -/
  | write (n : Nat)
  /-- The other side goes away. -/
  | hangUp
  /-- The owner asks the reader to stop. -/
  | requestStop
  /-- The reader's wait is over, with the report `r`. -/
  | wake (r : Report)
  /-- The reader's wait is interrupted. -/
  | interruptWait
  /-- The reader's wait fails. -/
  | failWait
  /-- The reader gets `n` bytes. -/
  | read (n : Nat)
  /-- The reader gets the end. -/
  | readEnd
  /-- The reader's read is interrupted. -/
  | interruptRead
  /-- The reader's read fails. -/
  | failRead
deriving DecidableEq, Repr

/-- The reader of `source` for packets up to `mtu`; its buffer is never empty. -/
def start (source : Source) (mtu : Nat) : Drain := ⟨max mtu 1, source, false, .waiting, 0⟩

/-- The reader `d` has not exited. -/
def isAlive (d : Drain) : Bool := d.phase != .exited

/-- The fullest report that a wait of `d` can give now. -/
def report (d : Drain) : Report := ⟨d.source.isReadable, d.source.isEnded, d.stopRequested⟩

/-- A wait of `d` can give the report `r` now: `r` says that a stop was requested exactly if one
was, says that there is something to read if something is queued, and says nothing that is not so.
-/
def mayReport (d : Drain) (r : Report) : Bool :=
  r.stopRequested == d.stopRequested &&
    (!r.readable || d.source.isReadable) && (!r.ended || d.source.isEnded) &&
    (d.source.pending == 0 || r.readable) && (r.readable || r.ended || r.stopRequested)

/-- What the reader does about `r`. A stop goes before everything, and what can be read goes before
the end. -/
def heed (r : Report) : DrainPhase :=
  if r.stopRequested then .exited
  else if r.readable then .reading
  else if r.ended then .exited
  else .waiting

/-- `d` after the action `a`, if `a` can happen. -/
def step? (d : Drain) (a : Action) : Option Drain :=
  match a, d.phase with
  | .write n, .waiting | .write n, .reading =>
    (d.source.write? n).map fun s => { d with source := s }
  | .hangUp, .waiting | .hangUp, .reading => some { d with source := d.source.hangUp }
  | .requestStop, _ => some { d with stopRequested := true }
  | .wake r, .waiting => if d.mayReport r then some { d with phase := heed r } else none
  | .interruptWait, .waiting => some d
  | .failWait, .waiting => some { d with phase := .exited }
  | .read n, .reading =>
    (d.source.take? d.buffer n).map fun s =>
      { d with source := s, phase := .waiting, counted := d.counted + n }
  | .readEnd, .reading => if d.source.isAtEnd then some { d with phase := .exited } else none
  | .interruptRead, .reading => some { d with phase := .waiting }
  | .failRead, .reading => some { d with phase := .exited }
  | _, _ => none

/-! ## The reader on its own -/

/-- The reader's next action, if it need not wait for it: the fullest `report`, then the largest
read. -/
def next? (d : Drain) : Option Action :=
  match d.phase with
  | .waiting => if d.mayReport d.report then some (.wake d.report) else none
  | .reading =>
    if d.source.isAtEnd then some .readEnd
    else if d.source = .failing then some .failRead
    else some (.read (d.source.available d.buffer))
  | .exited => none

/-- `d` after `d.next?`. -/
def advance? (d : Drain) : Option Drain := d.next?.bind d.step?

/-- How far a phase is from the exit. -/
def DrainPhase.rank : DrainPhase → Nat
  | .waiting => 2
  | .reading => 1
  | .exited => 0

/-- A bound for the number of actions that the reader `d` can do without waiting. -/
def work (d : Drain) : Nat := 3 * d.source.pending + DrainPhase.rank d.phase

theorem pending_take? {s s' : Source} {buffer n : Nat} (h : s.take? buffer n = some s') :
    s'.pending < s.pending := by
  cases s with
  | stream queued ended =>
    simp only [Source.take?] at h
    split at h
    · cases h
      simp only [Source.pending]
      omega
    · cases h
  | packets queued ended =>
    cases queued with
    | nil => cases h
    | cons m rest =>
      simp only [Source.take?] at h
      split at h
      · cases h
        simp [Source.pending]
      · cases h
  | failing => cases h
  | hungUp => cases h

theorem work_advance? {d d' : Drain} (h : d.advance? = some d') : d'.work < d.work := by
  obtain ⟨a, ha, hs⟩ := Option.bind_eq_some_iff.mp h
  cases hp : d.phase with
  | waiting =>
    simp only [next?, hp] at ha
    split at ha
    · next hm =>
      cases ha
      simp only [step?, hp, hm, if_true] at hs
      cases hs
      have : DrainPhase.rank (heed d.report) < 2 := by
        simp only [mayReport, Bool.and_eq_true, Bool.or_eq_true] at hm
        simp only [heed]
        split
        · decide
        · split
          · decide
          · split
            · decide
            · simp_all
      simp only [work, hp, DrainPhase.rank] at *
      omega
    · cases ha
  | reading =>
    simp only [next?, hp] at ha
    split at ha
    · next he =>
      cases ha
      simp only [step?, hp, he, if_true] at hs
      cases hs
      simp [work, hp, DrainPhase.rank]
    · split at ha
      · cases ha
        simp only [step?, hp] at hs
        cases hs
        simp [work, hp, DrainPhase.rank]
      · cases ha
        simp only [step?, hp] at hs
        obtain ⟨s, ht, rfl⟩ := Option.map_eq_some_iff.mp hs
        have := pending_take? ht
        simp only [work, hp, DrainPhase.rank]
        omega
  | exited => simp [next?, hp] at ha

/-- `d` when the reader has done all that it can do without waiting. -/
def settle (d : Drain) : Drain :=
  match _ : d.advance? with
  | none => d
  | some d' => settle d'
termination_by d.work
decreasing_by exact work_advance? (by assumption)

theorem settle_of_none {d : Drain} (h : d.advance? = none) : d.settle = d := by
  rw [settle]
  split
  · rfl
  · next h' => rw [h] at h'; cases h'

theorem settle_of_some {d d' : Drain} (h : d.advance? = some d') : d.settle = d'.settle := by
  rw [settle]
  split
  · next h' => rw [h] at h'; cases h'
  · next h' => rw [h] at h'; cases h'; rfl

/-- `d` after the action `a` and all that the reader does about it. -/
def act? (d : Drain) (a : Action) : Option Drain := (d.step? a).map settle

/-- `d` after its owner has asked it to stop and waited for it. -/
def stop (d : Drain) : Drain := settle { d with stopRequested := true }

theorem mayReport_report (d : Drain) :
    d.mayReport d.report = (d.source.isReadable || d.source.isEnded || d.stopRequested) := by
  have h : (d.source.pending == 0 || d.source.isReadable) = true := by
    cases d.source with
    | stream queued ended => cases queued <;> simp [Source.pending, Source.isReadable]
    | packets queued ended => cases queued <;> simp [Source.pending, Source.isReadable]
    | failing => rfl
    | hungUp => rfl
  simp only [mayReport, report, h, Bool.and_true]
  cases d.source.isReadable <;> cases d.source.isEnded <;> cases d.stopRequested <;> rfl

theorem advance?_of_stopRequested {d : Drain} (h : d.phase = .waiting)
    (hs : d.stopRequested = true) : d.advance? = some { d with phase := .exited } := by
  have hm : d.mayReport d.report = true := by rw [mayReport_report, hs, Bool.or_true]
  simp [advance?, next?, step?, h, hm, heed, show d.report.stopRequested = true from hs]

theorem advance?_of_exited {d : Drain} (h : d.phase = .exited) : d.advance? = none := by
  simp [advance?, next?, h]

/-- A reader that is `waiting` is gone once its owner has stopped it. -/
theorem phase_stop {d : Drain} (h : d.phase = .waiting) : d.stop.phase = .exited := by
  have ha := advance?_of_stopRequested (d := { d with stopRequested := true }) h rfl
  rw [stop, settle_of_some ha, settle_of_none (advance?_of_exited rfl)]

end Drain

end SplitTunnel
