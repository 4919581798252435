import SplitTunnel.Net.Block.Text
import SplitTunnel.Platform.Call

/-!
# Why an interface does not come up (`SPEC_FULL.md` §7 and §7.1, `EstablishError`)

`EstablishError.message` is the wording.
-/

namespace SplitTunnel

open Net

/-- Why an interface does not come up. -/
inductive EstablishError where
  | noProfile
  /-- There is nothing to bring up again. -/
  | nothingEstablished
  /-- The platform refuses `route` for `cause`. -/
  | routeRejected (route : Block) (cause : Rejection)
  /-- The platform refuses something other than a route for `cause`. -/
  | configurationRejected (cause : Rejection)
  /-- The user does not let the platform bring the interface up. -/
  | declined
  /-- The interface is up and nothing can be started that reads from it. -/
  | drainFailed
deriving DecidableEq, Repr

/-- The wording of the error. -/
def EstablishError.message : EstablishError → String
  | noProfile => "no profile set"
  | nothingEstablished => "no interface was established yet"
  | routeRejected route cause => "platform rejected route " ++ route.text ++ ": " ++ cause.message
  | configurationRejected cause => "failed to apply interface configuration: " ++ cause.message
  | declined => "platform declined to establish the interface"
  | drainFailed => "failed to start packet dropper"

end SplitTunnel
