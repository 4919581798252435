import SplitTunnel.Rehearsal.Rules

/-!
# What a rehearsal notes down (`SPEC_FULL.md` §10.4, the recording platform)

* `entry?`: an event in words, builders numbered from one on. What happens to interfaces is seen at
  their other ends and has no entry.
* `blockingInterface?`: the interface that came up last in blocking mode.
* `feed`, `cutOff`: something is written at that interface's other end, or the end goes
  away.
-/

namespace SplitTunnel.Rehearsal

/-- What follows a call in its entry: the kind of the refusal. -/
def refusalSuffix : Option Rejection → String
  | none => ""
  | some cause => " => " ++ (Refusal.ofRejection cause).name

/-- What follows `establish` in its entry. -/
def issueSuffix : Establishment → String
  | .up => ""
  | .declined => " => decline"
  | .failed cause => " => " ++ (Refusal.ofRejection cause).name

/-- The builder of an event, and the event in words. -/
def entryBody? : Event → Option (Nat × String)
  | .created n session => some (n, "create " ++ session)
  | .called n c answer => some (n, c.text ++ refusalSuffix answer)
  | .established n outcome => some (n, "establish" ++ issueSuffix outcome)
  | .drained _ | .closed _ => none

/-- `e` in words, with the builder's number. -/
def entry? (e : Event) : Option String :=
  (entryBody? e).map fun (n, body) => toString (n + 1) ++ " " ++ body

/-- The events of `h` in words. -/
def journal (h : Host) : List String := h.events.filterMap entry?

/-- The interface of `h` that came up last in blocking mode. -/
def blockingInterface? (h : Host) : Option Nat :=
  (List.range h.interfaces.length).reverse.find? fun i =>
    (h.interfaces[i]?.map (·.built.isBlocking)).getD false

/-- What comes of doing something at the other end of `blockingInterface?`. -/
inductive PeerOutcome where
  | done
  /-- No placeholder has been up. -/
  | noPlaceholder
  /-- Nobody reads any more. -/
  | closed
deriving DecidableEq, Repr

/-- Writes `n` bytes at the other end of the placeholder, and waits until they are read. -/
def feed (h : Host) (n : Nat) : Host × PeerOutcome :=
  match blockingInterface? h with
  | none => (h, .noPlaceholder)
  | some i =>
    match h.actAt? i (.write n) with
    | some h => (h, .done)
    | none => (h, .closed)

/-- Takes the other end of the placeholder away, and waits until its reader has noticed. -/
def cutOff (h : Host) : Host × PeerOutcome :=
  match blockingInterface? h with
  | none => (h, .noPlaceholder)
  | some i => ((h.actAt? i .hangUp).getD h, .done)

end SplitTunnel.Rehearsal
