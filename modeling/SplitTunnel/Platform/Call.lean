import SplitTunnel.Net.Address.Printer

/-!
# Calls on an interface builder (`SPEC_FULL.md` §6, `TunBuilder`)

* `Call`: what a builder of the platform is told about the interface to come.
* `Call.text`: a call in words, its name and its argument.
* `Rejection`: why a platform refuses a call.
-/

namespace SplitTunnel

open Net

/-- What a builder is told about the interface to come. -/
inductive Call where
  | addAddress (address : Address) (prefixLength : Nat)
  | addRoute (address : Address) (prefixLength : Nat)
  | addDnsServer (server : Address)
  | addSearchDomain (domain : String)
  | setMtu (mtu : UInt16)
  /-- Traffic of `f` may go past the tunnel if it has no routes. -/
  | allowFamily (f : Family)
  | disallowApp (app : String)
  | allowApp (app : String)
  /-- Reads from the interface wait for data if `on`. -/
  | setBlocking (on : Bool)
deriving DecidableEq, Repr

namespace Call

/-- The name of the call, as in §6. -/
def name : Call → String
  | addAddress .. => "add_address"
  | addRoute .. => "add_route"
  | addDnsServer _ => "add_dns_server"
  | addSearchDomain _ => "add_search_domain"
  | setMtu _ => "set_mtu"
  | allowFamily _ => "allow_family"
  | disallowApp _ => "add_disallowed_application"
  | allowApp _ => "add_allowed_application"
  | setBlocking _ => "set_blocking"

/-- `a` and the length `n` with a slash in between. -/
def addressText (a : Address) (n : Nat) : String := a.text ++ "/" ++ toString n

/-- What the call says about the interface, in words. -/
def argument : Call → String
  | addAddress a n | addRoute a n => addressText a n
  | addDnsServer a => a.text
  | addSearchDomain s | disallowApp s | allowApp s => s
  | setMtu n => toString n.toNat
  | allowFamily f => f.name
  | setBlocking on => if on then "true" else "false"

/-- The `name` and the `argument` of `c`. -/
def text (c : Call) : String := c.name ++ " " ++ c.argument

end Call

/-- Why a platform refuses a `Call`. -/
inductive Rejection where
  | invalidArgument (what : String)
  | unknownApplication (app : String)
  /-- The platform itself failed. -/
  | platform (what : String)
deriving DecidableEq, Repr

/-- The wording of the reason. -/
def Rejection.message : Rejection → String
  | invalidArgument what => "rejected argument: " ++ what
  | unknownApplication app => "unknown application: " ++ app
  | platform what => "platform failure: " ++ what

end SplitTunnel
