import SplitTunnel.Capabilities
import SplitTunnel.EstablishError
import SplitTunnel.Policy.Recording

/-!
# Requests to an interface builder (`SPEC_FULL.md` §4.2 and §7, `apply` of a `RouteSet`)

* `Request`: something to be told to a builder, together with what its rejection means. A rejected
  multicast route and an app that is not installed are let pass (`Request.tolerates`).
* `Recording.requests`: all that a recording asks of a builder, in order: addresses before routes,
  the size of packets last.
-/

namespace SplitTunnel

open Net

/-- Something to be told to a builder. -/
inductive Request where
  | address (a : InterfaceAddress)
  | route (b : Block)
  /-- Let `f` past the tunnel. -/
  | bypass (f : Family)
  | leaveOut (app : String)
  | takeIn (app : String)
  | mtu (n : UInt16)
  | dnsServer (a : Address)
  | blocking
deriving DecidableEq, Repr

namespace Request

/-- The `Call` that puts the request to a builder. -/
def call : Request → Call
  | address a => .addAddress a.address a.prefixLength
  | route b => .addRoute b.base b.prefixLength
  | bypass f => .allowFamily f
  | leaveOut app => .disallowApp app
  | takeIn app => .allowApp app
  | mtu n => .setMtu n
  | dnsServer a => .addDnsServer a
  | blocking => .setBlocking true

/-- The interface is good without what was rejected. Some platforms have no multicast routes, and an
app that is not installed need not be scoped. -/
def tolerates : Request → Rejection → Bool
  | route b, _ => b.isMulticast
  | leaveOut _, .unknownApplication _ | takeIn _, .unknownApplication _ => true
  | _, _ => false

/-- The error that a rejection means that is not tolerated. -/
def failure : Request → Rejection → EstablishError
  | route b, cause => .routeRejected b cause
  | _, cause => .configurationRejected cause

end Request

/-- What the scope asks of a builder, app by app. -/
def AppScope.requests : AppScope → List Request
  | allBut apps => apps.toList.map .leaveOut
  | only apps => apps.toList.map .takeIn

namespace Recording

/-- What `r.plan f` asks of a builder that supports `c`. -/
def familyRequests (r : Recording) (c : Capabilities) (f : Family) : List Request :=
  (r.plan f).routes.map .route ++
    if (r.plan f).bypass && c.familyBypass then [.bypass f] else []

/-- All that `r` asks of a builder that supports `c`, apart from DNS servers, which builders are
told as they become known. -/
def requests (r : Recording) (c : Capabilities) : List Request :=
  r.addresses.map .address ++ Family.all.flatMap (r.familyRequests c) ++
    (if c.perAppScoping then r.appScope.requests else []) ++ [.mtu r.mtu]

end Recording

end SplitTunnel
