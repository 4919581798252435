import SplitTunnel.Profile

/-!
# The slot for requests (`SPEC_FULL.md` §5, the watch channel for profile changes)

A request says what the user wants. The slot holds the latest one, so a request that has not been
picked up is replaced by the next (§4.5, last write wins).

* `Slot.send`: a new request. `Slot.pick?`: the latest one, if it has not been picked up.
-/

namespace SplitTunnel

/-- What the user wants: a connection with a profile, or `none` for no connection. -/
abbrev Target := Option Profile

/-- The request made last, and whether it has been picked up. -/
structure Slot where
  latest : Target := none
  /-- `latest` has not been picked up. -/
  unseen : Bool := false
deriving DecidableEq, Repr, Inhabited

namespace Slot

/-- Replaces the latest request by `target`. -/
def send (_ : Slot) (target : Target) : Slot := ⟨target, true⟩

/-- `s` after its request has been picked up. -/
def seen (s : Slot) : Slot := { s with unseen := false }

/-- The request of `s` to be picked up, if there is one. -/
def pick? (s : Slot) : Option Target := if s.unseen then some s.latest else none

@[simp] theorem pick?_send (s : Slot) (target : Target) : (s.send target).pick? = some target := rfl

@[simp] theorem pick?_seen (s : Slot) : s.seen.pick? = none := rfl

end Slot

end SplitTunnel
