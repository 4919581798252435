import SplitTunnel.Net.InterfaceAddress
import SplitTunnel.Policy.AppScope
import SplitTunnel.Policy.FamilyPlan

/-!
# What is known about the interface to come (`SPEC_FULL.md` §3 and §4.2, `RouteSet`)

A recording starts from a profile and grows by what the gateway assigns.

* `Recording.start`: nothing but the profile.
* `Recording.addAddress`, `addRoute`, `addDnsServer`, `setMtu`: what the gateway assigns. An
  address or a DNS server of a family shows that the tunnel carries the family.
* `Recording.plan`: what happens to the traffic of a family.
-/

namespace SplitTunnel

open Net

/-- What is known about the interface to come. -/
structure Recording where
  /-- The interface's addresses, in order. -/
  addresses : List InterfaceAddress := []
  /-- The addresses behind the gateway. -/
  pushed : AddressSet := .empty
  included : AddressSet
  excluded : AddressSet
  splitTunneling : SplitTunneling
  appScope : AppScope
  dnsServers : List Address := []
  mtu : UInt16
  ipv4Seen : Bool := false
  ipv6Seen : Bool := false
deriving DecidableEq, Repr, Inhabited

namespace Recording

/-- The size of packets if neither the profile nor the gateway sets one. -/
def defaultMtu : UInt16 := 1500

/-- The recording of `p`, for the app that owns the tunnel. -/
def start (p : Profile) (owningApp : String) : Except LiteralError Recording :=
  match p.included, p.excluded with
  | .ok included, .ok excluded =>
    .ok {
      included
      excluded
      splitTunneling := p.splitTunneling
      appScope := .of p.selectedAppsHandling p.selectedApps owningApp
      mtu := p.mtu.getD defaultMtu }
  | .error e, _ => .error e
  | _, .error e => .error e

/-- The tunnel carries the given family. -/
def seen (r : Recording) : Family → Bool
  | .ipv4 => r.ipv4Seen
  | .ipv6 => r.ipv6Seen

/-- Notes that the tunnel carries a family. -/
def see (r : Recording) : Family → Recording
  | .ipv4 => { r with ipv4Seen := true }
  | .ipv6 => { r with ipv6Seen := true }

/-- The interface gets the address `a`. -/
def addAddress (r : Recording) (a : InterfaceAddress) : Recording :=
  { r with addresses := r.addresses ++ [a] }.see a.address.family

/-- The addresses of `b` are behind the gateway. -/
def addRoute (r : Recording) (b : Block) : Recording := { r with pushed := r.pushed.add b }

/-- Names are looked up at `server`. -/
def addDnsServer (r : Recording) (server : Address) : Recording :=
  { r with dnsServers := r.dnsServers ++ [server] }.see server.family

/-- Packets have at most `mtu` bytes. -/
def setMtu (r : Recording) (mtu : UInt16) : Recording := { r with mtu }

/-- What happens to the traffic of `f`: `FamilyPlan.decide` for what `r` knows. -/
def plan (r : Recording) (f : Family) : FamilyPlan :=
  .decide f (r.splitTunneling.blocks f) (r.seen f) r.included r.excluded r.pushed

end Recording

end SplitTunnel
