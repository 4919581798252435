import SplitTunnel.Drain
import SplitTunnel.Policy.Request

/-!
# The platform and what happened on it (`SPEC_FULL.md` §6, `TunBuilderFactory` and `TunBuilder`)

A platform decides about calls and interfaces by all that happened before, so any behaviour of a
platform in a run is that of some `Platform`.

* `Event`: what happened. `Host`: all of it together with the builders and interfaces that it left.
* `Host.create`, `Host.submit`, `Host.establish`: a new builder, a call on one, an interface.
* `Host.submitAll`: requests in order, up to the first rejection that is not tolerated.
* `Host.bringUp`: requests and then the interface.
* `Host.drainFrom`, `Host.close`: a reader takes an interface over, and gives it up.
-/

namespace SplitTunnel

/-- What comes of asking a builder for its interface. -/
inductive Establishment where
  | up
  | declined
  | failed (cause : Rejection)
deriving DecidableEq, Repr

/-- Something that happened. Builders and interfaces are numbered from zero on. -/
inductive Event where
  /-- `builder` was made for a session of the given name. -/
  | created (builder : Nat) (session : String)
  /-- `builder` was told `call`, and refused or took it. -/
  | called (builder : Nat) (call : Call) (answer : Option Rejection)
  /-- `builder` was asked for its interface. -/
  | established (builder : Nat) (outcome : Establishment)
  /-- A reader took `interface` over. -/
  | drained (interface : Nat)
  | closed (interface : Nat)
deriving DecidableEq, Repr

/-- How a platform decides, by what happened so far, oldest first. -/
structure Platform where
  /-- Why a builder refuses a call, if it does. -/
  answer : List Event → Nat → Call → Option Rejection
  /-- What comes of asking a builder for its interface. -/
  establish : List Event → Nat → Establishment
  /-- A reader of an interface can be started. -/
  startsDrain : List Event → Bool

namespace Platform

/-- Why `builder` refuses a call. That reads wait is not the platform's business. -/
def answerTo (p : Platform) (events : List Event) (builder : Nat) : Call → Option Rejection
  | .setBlocking _ => none
  | c => p.answer events builder c

/-- A platform that takes everything. -/
def agreeing : Platform := ⟨fun _ _ _ => none, fun _ _ => .up, fun _ => true⟩

end Platform

/-- What a builder was told and took in `calls`, in order. -/
structure Builder where
  session : String
  accepted : List Call := []
deriving DecidableEq, Repr, Inhabited

namespace Builder

/-- Reads from the interface wait for data, as `b` was last told. -/
def isBlocking (b : Builder) : Bool :=
  b.accepted.foldl (fun on c => match c with | .setBlocking on => on | _ => on) false

end Builder

/-- Who has the descriptor of an `Interface`. -/
inductive Holder where
  | engine
  | drain (d : Drain)
  | nobody
deriving DecidableEq, Repr, Inhabited

/-- An interface that came up. -/
structure Interface where
  /-- The builder of the interface, as it was then. -/
  built : Builder
  holder : Holder
deriving DecidableEq, Repr, Inhabited

namespace Interface

/-- The descriptor of `i` is open. -/
def isOpen (i : Interface) : Bool :=
  match i.holder with
  | .engine => true
  | .drain d => d.isAlive
  | .nobody => false

/-- The reader that has the descriptor of `i`. -/
def drain? (i : Interface) : Option Drain :=
  match i.holder with
  | .drain d => some d
  | _ => none

end Interface

/-- What happened on a platform and what it left. -/
structure Host where
  events : List Event := []
  builders : List Builder := []
  interfaces : List Interface := []
deriving DecidableEq, Repr, Inhabited

namespace Host

/-- Notes the event `e`. -/
def log (h : Host) (e : Event) : Host := { h with events := h.events ++ [e] }

/-- `h` with a new builder, and the number of that. -/
def create (h : Host) (session : String) : Host × Nat :=
  let made : Host := { h with builders := h.builders ++ [⟨session, []⟩] }
  (made.log (.created h.builders.length session), h.builders.length)

/-- Tells `builder` the call `c`; the answer is why it refuses. -/
def submit (p : Platform) (h : Host) (builder : Nat) (c : Call) : Host × Option Rejection :=
  let answer := p.answerTo h.events builder c
  let h := h.log (.called builder c answer)
  match answer with
  | some cause => (h, some cause)
  | none =>
    ({ h with
      builders := h.builders.modify builder fun b => { b with accepted := b.accepted ++ [c] } },
      none)

/-- Tells `builder` the requests in order, up to the first rejection that is not tolerated. -/
def submitAll (p : Platform) (h : Host) (builder : Nat) :
    List Request → Host × Except EstablishError Unit
  | [] => (h, .ok ())
  | r :: rest =>
    match h.submit p builder r.call with
    | (h, none) => h.submitAll p builder rest
    | (h, some cause) =>
      if r.tolerates cause then h.submitAll p builder rest else (h, .error (r.failure cause))

/-- Asks `builder` for its interface; the answer is the number of that. -/
def establish (p : Platform) (h : Host) (builder : Nat) : Host × Except EstablishError Nat :=
  let outcome := p.establish h.events builder
  let h := h.log (.established builder outcome)
  match outcome with
  | .up =>
    let built := h.builders.getD builder default
    ({ h with interfaces := h.interfaces ++ [⟨built, .engine⟩] }, .ok h.interfaces.length)
  | .declined => (h, .error .declined)
  | .failed cause => (h, .error (.configurationRejected cause))

/-- Tells `builder` the `requests` and asks it for its interface. -/
def bringUp (p : Platform) (h : Host) (builder : Nat) (requests : List Request) :
    Host × Except EstablishError Nat :=
  match h.submitAll p builder requests with
  | (h, .ok ()) => h.establish p builder
  | (h, .error e) => (h, .error e)

/-- The reader that has the descriptor of `interface`. -/
def drain? (h : Host) (interface : Nat) : Option Drain := h.interfaces[interface]?.bind (·.drain?)

/-- The descriptor of `interface` goes to `holder`. -/
def setHolder (h : Host) (interface : Nat) (holder : Holder) : Host :=
  { h with interfaces := h.interfaces.modify interface fun i => { i with holder } }

/-- Starts a reader for packets up to `mtu` on `interface`. If that fails, `interface` is closed. -/
def drainFrom (p : Platform) (h : Host) (interface : Nat) (mtu : Nat) : Host × Bool :=
  if p.startsDrain h.events then
    ((h.setHolder interface (.drain (.start (.stream 0 false) mtu))).log (.drained interface), true)
  else ((h.setHolder interface .nobody).log (.closed interface), false)

/-- Stops the reader of `interface`, which closes it. -/
def close (h : Host) (interface : Nat) : Host :=
  match h.drain? interface with
  | some d => (h.setHolder interface (.drain d.stop)).log (.closed interface)
  | none => h

/-- The reader of `interface` sees the action `a`, and does what it can do about it. -/
def actAt? (h : Host) (interface : Nat) (a : Drain.Action) : Option Host :=
  ((h.drain? interface).bind fun d => d.act? a).map fun d => h.setHolder interface (.drain d)

end Host

end SplitTunnel
