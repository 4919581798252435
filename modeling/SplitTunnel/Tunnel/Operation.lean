import SplitTunnel.Tunnel

/-!
# Operations on a tunnel (`SPEC_FULL.md` §4.3 and §6, `EngineHandle`)

* `EngineRequest`: what the negotiation engine may ask of a tunnel.
* `Operation`: what may be done to a tunnel at all.
* `Tunnel.perform`, `Tunnel.run`: one operation, and operations in order, each with the platform
  as it is then.
-/

namespace SplitTunnel

/-- What the negotiation engine may ask of a tunnel. Addresses are texts as the engine has them. -/
inductive EngineRequest where
  | addAddress (address : String) (prefixLength : Int)
  | addRoute (address : String) (prefixLength : Int)
  | addDnsServer (address : String)
  | addSearchDomain (domain : String)
  | setMtu (mtu : Int)
  | establish
  | reestablish
deriving DecidableEq, Repr

/-- What may be done to a tunnel: what the engine asks, and what the control loop does. -/
inductive Operation where
  | request (r : EngineRequest)
  | setProfile (p : Profile)
  | raisePlaceholder
  | lowerPlaceholder
deriving DecidableEq, Repr

/-- What comes of an `Operation`. -/
inductive Outcome where
  | done
  /-- A fact was recorded if `ok`. -/
  | recorded (ok : Bool)
  /-- The interface with the number `interface` is up. -/
  | up (interface : Nat)
  | badProfile (e : Net.LiteralError)
  | notUp (e : EstablishError)
deriving DecidableEq, Repr

namespace Tunnel

open Net

/-- The outcome of recording a fact. -/
def recorded : Tunnel × Bool → Tunnel × Outcome
  | (t, ok) => (t, .recorded ok)

/-- The outcome of bringing an interface up. -/
def came : Tunnel × Except EstablishError Nat → Tunnel × Outcome
  | (t, .ok i) => (t, .up i)
  | (t, .error e) => (t, .notUp e)

/-- Does what the engine asks of `t`. -/
def serve (p : Platform) (t : Tunnel) : EngineRequest → Tunnel × Outcome
  | .addAddress address n => recorded (t.addAddress address n)
  | .addRoute address n => recorded (t.addRoute address n)
  | .addDnsServer address => recorded (t.addDnsServer p address)
  | .addSearchDomain domain => recorded (t.addSearchDomain p domain)
  | .setMtu n => recorded (t.setMtu n)
  | .establish => came (t.establish p)
  | .reestablish => came (t.reestablish p)

/-- `t` after one operation, and what comes of it. -/
def perform (p : Platform) (t : Tunnel) : Operation → Tunnel × Outcome
  | .request r => t.serve p r
  | .setProfile profile =>
    match t.setProfile profile with
    | (t, .ok ()) => (t, .done)
    | (t, .error e) => (t, .badProfile e)
  | .raisePlaceholder =>
    match t.raisePlaceholder p with
    | (t, .ok ()) => (t, .done)
    | (t, .error e) => (t, .notUp e)
  | .lowerPlaceholder => (t.lowerPlaceholder, .done)

/-- `t` after operations in order, each with the platform as it is then. -/
def run (t : Tunnel) : List (Platform × Operation) → Tunnel
  | [] => t
  | (p, o) :: rest => (t.perform p o).1.run rest

theorem run_append (t : Tunnel) (first second : List (Platform × Operation)) :
    t.run (first ++ second) = (t.run first).run second := by
  induction first generalizing t with
  | nil => rfl
  | cons step rest ih => exact ih _

end Tunnel

end SplitTunnel
