import SplitTunnel.Controller.Stage
import SplitTunnel.ServiceConfig
import SplitTunnel.Settings
import SplitTunnel.Status
import SplitTunnel.Tunnel.Operation

/-!
# The control loop (`SPEC_FULL.md` §4.5, `ConnectionController`)

One loop switches between connections. A request only replaces the one before it. Before the
engine of an old connection is taken down for a new one, a placeholder is raised, so nothing goes
past the tunnel in between.

The loop runs beside the user's handles and the engine (§5). Each of its steps is one thing that the
others see at once, and between two steps anything may happen.

* `Controller.request?`: a handle is used; refused once the loop has given up the slot.
* `Controller.callback`: the engine uses what it was given when it was brought up.
* `Controller.advance?`: the loop's next step, unless it waits for a request. From `.adopting` to
  `.inTakeDown` it goes through `stop_current_connection`, from `.announcing` to `.inNegotiate`
  through the attempt that follows.
* `Controller.step?`: any of these.
-/

namespace SplitTunnel

/-- A call of the negotiation engine (§6, `NegotiationEngine`). -/
inductive EngineCall where
  | bringUp (logPath dataDir : String) (byod : Bool)
  | takeDown
  | negotiate (settings : String)
deriving DecidableEq, Repr

/-- What the engine calls back with (§6, `EngineHandle`). -/
inductive Callback where
  | request (r : EngineRequest)
  | updateStatus (code : Int)
deriving DecidableEq, Repr

/-- The control loop and all that it shares with others. -/
structure Controller where
  config : ServiceConfig
  tunnel : Tunnel
  status : StatusFeed := {}
  slot : Slot := {}
  /-- Somebody can still make requests. -/
  handles : Bool := true
  stage : Stage := .created
  /-- The profile that the engine has been brought up for. -/
  current : Option Profile := none
  calls : List EngineCall := []
deriving DecidableEq, Repr, Inhabited

namespace Controller

/-- A loop that has not been started, on a platform that supports `supported`. -/
def create (config : ServiceConfig) (supported : Capabilities) : Controller where
  config
  tunnel := .start config.capabilities supported config.owningAppId
  status := StatusFeed.report {} .disconnected

/-- Publishes the state `s`. -/
def report (c : Controller) (s : VpnState) : Controller := { c with status := c.status.report s }

/-- Goes on with the stage `s`. -/
def goTo (c : Controller) (s : Stage) : Controller := { c with stage := s }

/-- Makes the call `e` of the engine and waits for it in the stage `s`. -/
def call (c : Controller) (e : EngineCall) (s : Stage) : Controller :=
  { c with calls := c.calls ++ [e], stage := s }

/-- The loop picks requests up, or will. -/
def isOpen (c : Controller) : Bool := c.stage != .stopped

/-- A handle is used to ask for `target`, unless the loop has given up the slot. -/
def request? (c : Controller) (target : Target) : Option Controller :=
  if c.handles && c.isOpen then some { c with slot := c.slot.send target } else none

/-- The last handle goes away. -/
def dropHandles (c : Controller) : Controller := { c with handles := false }

/-- The engine calls back; the outcome is what it is answered. -/
def callback (p : Platform) (c : Controller) : Callback → Controller × Outcome
  | .request r =>
    let (tunnel, outcome) := c.tunnel.serve p r
    ({ c with tunnel }, outcome)
  | .updateStatus code => ({ c with status := c.status.reportEngine code }, .done)

/-- The loop of `c` is started. -/
def start? (c : Controller) : Option Controller :=
  if c.stage = .created then some (c.goTo .ready) else none

/-- The loop has picked up `target`. -/
def pick (c : Controller) (target : Target) : Controller :=
  match target with
  | some p =>
    if c.tunnel.capabilities.blockingPlaceholder then c.goTo (.adopting p)
    else c.goTo (.releasing (some p))
  | none => c.goTo (.releasing none)

/-- Publishes that a connection ends, unless another one follows it. -/
def reportEnd (c : Controller) : Target → Controller
  | some _ => c
  | none => c.report .disconnecting

/-- Looks at `c.slot`. A request goes before the loss of all handles, which is as good as a request
for no connection. -/
def look? (c : Controller) : Option Controller :=
  match c.slot.pick? with
  | some target => some ({ c with slot := c.slot.seen }.pick target)
  | none => if c.handles then none else some (c.pick none)

/-- The loop's next step, unless it waits. `up` is what the engine answers if it is being brought
up. A profile that cannot be read leaves the previous one set, whose placeholder does as well. -/
def advance? (p : Platform) (up : Bool) (c : Controller) : Option Controller :=
  match c.stage with
  | .created | .stopped => none
  | .ready => c.look?
  | .adopting next => some ({ c with tunnel := (c.tunnel.setProfile next).1 }.goTo (.blocking next))
  | .blocking next =>
    some ({ c with tunnel := (c.tunnel.raisePlaceholder p).1 }.goTo (.releasing (some next)))
  | .releasing next =>
    match c.current with
    | none => some (c.goTo (.next next))
    | some _ => some ({ c with current := none }.reportEnd next |>.goTo (.takingDown next))
  | .takingDown next => some (c.call .takeDown (.inTakeDown next))
  | .inTakeDown next => some (c.goTo (.next next))
  | .lowering => some ({ c with tunnel := c.tunnel.lowerPlaceholder }.goTo .parting)
  | .parting => some (c.report .disconnected |>.goTo .leaving)
  | .leaving => some (c.goTo .stopped)
  | .announcing profile => some (c.report .connecting |>.goTo (.preparing profile))
  | .preparing profile =>
    match c.tunnel.setProfile profile with
    | (tunnel, .ok ()) => some ({ c with tunnel }.goTo (.bringingUp profile))
    | (tunnel, .error _) => some ({ c with tunnel }.goTo .failing)
  | .bringingUp profile =>
    some (c.call (.bringUp c.config.logPath c.config.dataDir c.config.byod) (.inBringUp profile))
  | .inBringUp profile =>
    if up then some ({ c with current := some profile }.goTo (.checking profile))
    else some (c.goTo .failing)
  | .checking profile =>
    if profile.isMissingPassword then some (c.goTo .failing)
    else
      some (c.call (.negotiate (Settings.ofProfile profile c.config.language).text) .inNegotiate)
  | .inNegotiate => some (c.goTo .ready)
  | .failing => some (c.report .error |>.goTo .ready)

/-- Something that happens around the loop. -/
inductive Action where
  | request (target : Target)
  | dropHandles
  | callback (b : Callback)
  /-- The loop does its next step; `up` as for `advance?`. -/
  | advance (up : Bool)
deriving DecidableEq, Repr

/-- The loop and its surroundings after an action, if it can happen. -/
def step? (p : Platform) (c : Controller) : Action → Option Controller
  | .request target => c.request? target
  | .dropHandles => some c.dropHandles
  | .callback b => some (c.callback p b).1
  | .advance up => c.advance? p up

/-! ## Waiting -/

/-- The number of steps that the loop can do without waiting is less than `c.work`. -/
def work (c : Controller) : Nat := (if c.slot.unseen then 32 else 0) + c.stage.rank

theorem work_lt {c c' : Controller} (hs : c'.slot = c.slot) (hr : c'.stage.rank < c.stage.rank) :
    c'.work < c.work := by
  unfold work
  rw [hs]
  omega

@[simp] theorem slot_pick (c : Controller) (target : Target) : (c.pick target).slot = c.slot := by
  unfold pick
  split
  · split <;> rfl
  · rfl

@[simp] theorem handles_pick (c : Controller) (target : Target) :
    (c.pick target).handles = c.handles := by
  unfold pick
  split
  · split <;> rfl
  · rfl

theorem work_look? {c c' : Controller} (hr : c.stage = .ready) (h : c.look? = some c') :
    c'.work < c.work ∧ c'.handles = c.handles := by
  unfold look? at h
  split at h
  · next target ht =>
    cases h
    refine ⟨?_, handles_pick ..⟩
    have hu : c.slot.unseen = true := by
      unfold Slot.pick? at ht
      split at ht
      · assumption
      · cases ht
    have h₁ : ({ c with slot := c.slot.seen }.pick target).work ≤ 18 := by
      unfold work
      rw [slot_pick]
      exact Nat.le_trans (Nat.le_of_eq (Nat.zero_add _)) (Stage.rank_le _)
    have h₂ : c.work = 39 := by
      unfold work
      rw [hu, hr]
      rfl
    omega
  · split at h
    · cases h
    · cases h
      exact ⟨work_lt rfl (by rw [hr]; exact Nat.le_of_ble_eq_true rfl), handles_pick ..⟩

/-- The steps of the loop lower `work` until it waits, and leave `handles` alone. -/
theorem work_advance? {p : Platform} {up : Bool} {c c' : Controller}
    (h : c.advance? p up = some c') : c'.work < c.work ∧ c'.handles = c.handles := by
  have lower {d : Controller} (hs : d.slot = c.slot) (hh : d.handles = c.handles)
      (hr : d.stage.rank < c.stage.rank) : d.work < c.work ∧ d.handles = c.handles :=
    ⟨work_lt hs hr, hh⟩
  unfold advance? at h
  split at h
  case h_1 | h_2 => cases h
  case h_3 hs => exact work_look? hs h
  case h_6 next hs =>
    split at h <;> cases h <;> cases next <;>
      exact lower rfl rfl (by rw [hs]; exact Nat.le_of_ble_eq_true rfl)
  case h_7 next hs | h_8 next hs =>
    cases h
    cases next <;> exact lower rfl rfl (by rw [hs]; exact Nat.le_of_ble_eq_true rfl)
  case h_13 profile hs | h_15 profile hs | h_16 profile hs =>
    split at h <;> cases h <;>
      exact lower rfl rfl (by rw [hs]; exact Nat.le_of_ble_eq_true rfl)
  all_goals
    next hs =>
    cases h
    exact lower rfl rfl (by rw [hs]; exact Nat.le_of_ble_eq_true rfl)

end Controller

end SplitTunnel
