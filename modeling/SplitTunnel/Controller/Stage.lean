import SplitTunnel.Controller.Slot

/-!
# Where the control loop is (`SPEC_FULL.md` §4.5)

* `Stage`: what the loop does next, or the call of the engine that it waits for.
* `Stage.rank`: a number that gets smaller from one stage to the next between two requests.
-/

namespace SplitTunnel

/-- What the control loop does next. -/
inductive Stage where
  /-- It has not been started (`Controller.start?`). -/
  | created
  /-- It waits for a request in the `Slot`. -/
  | ready
  /-- It sets `next`, whose placeholder is to stand in for the old connection. -/
  | adopting (next : Profile)
  /-- It raises the placeholder for `next`. -/
  | blocking (next : Profile)
  /-- It looks for an old connection; `next` is what has been picked up. -/
  | releasing (next : Target)
  /-- It takes the engine down. -/
  | takingDown (next : Target)
  /-- `EngineEvent.takeDown` is running. -/
  | inTakeDown (next : Target)
  /-- It lowers the placeholder, because nothing comes next. -/
  | lowering
  /-- It publishes `VpnState.disconnected`. -/
  | parting
  /-- It gives up the `Slot`. -/
  | leaving
  /-- It publishes `VpnState.connecting` for `p`. -/
  | announcing (p : Profile)
  /-- It sets `p` for the engine's recording. -/
  | preparing (p : Profile)
  /-- It brings the engine up for `p`. -/
  | bringingUp (p : Profile)
  /-- `EngineEvent.bringUp` is running. -/
  | inBringUp (p : Profile)
  /-- It looks for what `p` needs. -/
  | checking (p : Profile)
  /-- `EngineEvent.negotiate` is running. -/
  | inNegotiate
  /-- It publishes `VpnState.error`. -/
  | failing
  /-- It has ended. -/
  | stopped
deriving DecidableEq, Repr, Inhabited

/-- A call of the negotiation engine, without what it says. -/
inductive EngineEvent where
  | bringUp
  | takeDown
  | negotiate
deriving DecidableEq, Repr, Inhabited

namespace Stage

/-- What comes when no connection is left: an attempt with `p`, or the end. -/
def next : Target → Stage
  | some p => announcing p
  | none => lowering

/-- The call of the engine that is running in the stage. -/
def inCall? : Stage → Option EngineEvent
  | inBringUp _ => some .bringUp
  | inTakeDown _ => some .takeDown
  | inNegotiate => some .negotiate
  | _ => none

/-- How far the stage is from the end when no request comes in. -/
def rank : Stage → Nat
  | adopting _ => 18
  | blocking _ => 17
  | releasing (some _) => 16
  | takingDown (some _) => 15
  | inTakeDown (some _) => 14
  | announcing _ => 13
  | preparing _ => 12
  | bringingUp _ => 11
  | inBringUp _ => 10
  | checking _ => 9
  | inNegotiate | failing => 8
  | ready => 7
  | releasing none => 6
  | takingDown none => 5
  | inTakeDown none => 4
  | lowering => 3
  | parting => 2
  | leaving => 1
  | created | stopped => 0

theorem rank_le (s : Stage) : s.rank ≤ 18 := by
  unfold rank
  split <;> decide

end Stage

end SplitTunnel
