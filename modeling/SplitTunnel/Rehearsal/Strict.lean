import SplitTunnel.Platform.Host
import SplitTunnel.Text.Blank

/-!
# A strict platform (`SPEC_FULL.md` §10.4, the fake platform of the tests)

A platform that looks at what it is told: routes have to be blocks and not among the refused ones,
DNS servers and search domains have to be sensible, and apps have to be installed.

* `Strict.platform`: that platform.
* `describe`: a call as the platform notes it down.
-/

namespace SplitTunnel.Rehearsal

open Net

/-- What a strict platform has been set up with. -/
structure Strict where
  refusedRoutes : List Block := []
  unknownApps : List String := []
  declines : Bool := false
deriving DecidableEq, Repr, Inhabited

namespace Strict

/-- Why a call is refused by `s`, if it is. -/
def refusal? (s : Strict) : Call → Option Rejection
  | .addRoute a n =>
    match Block.around a n with
    | .error e => some (.invalidArgument e.message)
    | .ok b => if b ∈ s.refusedRoutes then some (.invalidArgument b.text) else none
  | .addDnsServer a => if a.isUnspecified then some (.invalidArgument a.text) else none
  | .addSearchDomain d =>
    if d.isEmpty || d.toList.any Text.isBlank then some (.invalidArgument d) else none
  | .disallowApp app | .allowApp app =>
    if app ∈ s.unknownApps then some (.unknownApplication app) else none
  | _ => none

/-- The platform that has been set up as `s`. -/
def platform (s : Strict) : Platform where
  answer _ _ c := s.refusal? c
  establish _ _ := if s.declines then .declined else .up
  startsDrain _ := true

end Strict

/-- A call as the platform notes it down, routes as blocks. -/
def describe : Call → String
  | .addAddress a n => "Address " ++ Call.addressText a n
  | .addRoute a n => "Route " ++ ((Block.of? a n).map Block.text).getD (Call.addressText a n)
  | .addDnsServer a => "Dns " ++ a.text
  | .addSearchDomain d => "SearchDomain " ++ d
  | .setMtu n => "Mtu " ++ toString n.toNat
  | .allowFamily f => "AllowFamily " ++ f.name
  | .disallowApp app => "Disallowed " ++ app
  | .allowApp app => "Allowed " ++ app
  | .setBlocking on => "Blocking " ++ if on then "true" else "false"

end SplitTunnel.Rehearsal
