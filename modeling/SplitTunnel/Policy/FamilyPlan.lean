import SplitTunnel.Net.Cover

/-!
# What happens to the traffic of one family (the table of `SPEC_FULL.md` §4.2)

* `FamilyPlan.decide`: a family that is blocked goes into the tunnel as a whole, one that has no
  address in the tunnel goes past it, and of any other the included addresses (or, if none are
  included, the pushed ones) that are not excluded are routed.
-/

namespace SplitTunnel

open Net

/-- What happens to the traffic of one family. -/
structure FamilyPlan where
  routes : List Block := []
  /-- The family may go past the tunnel. -/
  bypass : Bool := false
deriving DecidableEq, Repr, Inhabited

namespace FamilyPlan

/-- The addresses to be routed for `f`, if it has an address in the tunnel. -/
def routed (f : Family) (included excluded pushed : AddressSet) : AddressSet :=
  let chosen := included.restrict f
  (if chosen.isEmpty then pushed.restrict f else chosen).removeAll excluded

/-- The plan for `f`. A family that is `blocked` and not `seen` has no routes, because there is
nothing to route it to. -/
def decide (f : Family) (blocked seen : Bool) (included excluded pushed : AddressSet) :
    FamilyPlan :=
  match blocked, seen with
  | false, true => { routes := (routed f included excluded pushed).subnets }
  | false, false => { bypass := true }
  | true, true => { routes := [Block.whole f] }
  | true, false => {}

end FamilyPlan

end SplitTunnel
