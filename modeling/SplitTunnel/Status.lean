/-!
# The status of a connection (`SPEC_FULL.md` §4.5, status stream)

* `VpnState`: what the user is shown; `EngineStatus`: what the negotiation engine reports.
* `StatusFeed`: the states that have been published, in order. A state equal to the last one is
  not published again (`published_report`), and an engine code without a meaning publishes nothing.
-/

namespace SplitTunnel

/-- The state of a connection as the user sees it. -/
inductive VpnState where
  | disconnected
  | connecting
  | connected
  | disconnecting
  | error
deriving DecidableEq, Repr, Inhabited

namespace VpnState

def all : List VpnState := [disconnected, connecting, connected, disconnecting, error]

/-- The number of the state. -/
def code : VpnState → Int
  | disconnected => 0
  | connecting => 1
  | connected => 2
  | disconnecting => 3
  | error => 4

/-- The name of the state. -/
def name : VpnState → String
  | disconnected => "Disconnected"
  | connecting => "Connecting"
  | connected => "Connected"
  | disconnecting => "Disconnecting"
  | error => "Error"

/-- The state `s` with `s.code = n`. -/
def ofCode? (n : Int) : Option VpnState := all.find? fun s => s.code == n

@[simp] theorem ofCode?_code (s : VpnState) : ofCode? s.code = some s := by cases s <;> decide

end VpnState

/-- What the negotiation engine reports. -/
inductive EngineStatus where
  | childSaUp
  | childSaDown
  | authError
  | peerAuthError
  | lookupError
  | unreachableError
  | certificateUnavailable
  | genericError
deriving DecidableEq, Repr, Inhabited

namespace EngineStatus

def all : List EngineStatus :=
  [childSaUp, childSaDown, authError, peerAuthError, lookupError, unreachableError,
    certificateUnavailable, genericError]

/-- The number of the report. -/
def code : EngineStatus → Int
  | childSaUp => 1
  | childSaDown => 2
  | authError => 3
  | peerAuthError => 4
  | lookupError => 5
  | unreachableError => 6
  | certificateUnavailable => 7
  | genericError => 8

/-- The name of the report. -/
def name : EngineStatus → String
  | childSaUp => "ChildSaUp"
  | childSaDown => "ChildSaDown"
  | authError => "AuthError"
  | peerAuthError => "PeerAuthError"
  | lookupError => "LookupError"
  | unreachableError => "UnreachableError"
  | certificateUnavailable => "CertificateUnavailable"
  | genericError => "GenericError"

/-- The report `s` with `s.code = n`. -/
def ofCode? (n : Int) : Option EngineStatus := all.find? fun s => s.code == n

/-- The state that a report puts the connection in. `childSaDown` is not an error, because the
engine sets up a new child association on its own. -/
def vpnState : EngineStatus → VpnState
  | childSaUp => .connected
  | childSaDown => .connecting
  | authError | peerAuthError | lookupError | unreachableError | certificateUnavailable
  | genericError => .error

@[simp] theorem ofCode?_code (s : EngineStatus) : ofCode? s.code = some s := by
  cases s <;> decide

end EngineStatus

/-- The states that have been published, oldest first. -/
structure StatusFeed where
  published : List VpnState := []
deriving DecidableEq, Repr, Inhabited

namespace StatusFeed

/-- Publishes `s` unless it is the state published last. -/
def report (f : StatusFeed) (s : VpnState) : StatusFeed :=
  if f.published.getLast? = some s then f else ⟨f.published ++ [s]⟩

/-- Publishes the state that the engine's `code` stands for, if it stands for one. -/
def reportEngine (f : StatusFeed) (code : Int) : StatusFeed :=
  match EngineStatus.ofCode? code with
  | some status => f.report status.vpnState
  | none => f

theorem published_report (f : StatusFeed) (s : VpnState) :
    (f.report s).published =
      if f.published.getLast? = some s then f.published else f.published ++ [s] := by
  unfold report
  split <;> rfl

@[simp] theorem getLast?_report (f : StatusFeed) (s : VpnState) :
    (f.report s).published.getLast? = some s := by
  rw [published_report]
  split
  · assumption
  · simp

end StatusFeed

end SplitTunnel
