import SplitTunnel.Profile

/-!
# Which apps use the tunnel (`SPEC_FULL.md` §4.2, app filtering)

* `AppScope.of`: the scope for a profile's selection. The owning app never uses the tunnel,
  because what it fetches during the negotiation would be routed into it.
-/

namespace SplitTunnel

/-- Which apps use the tunnel. -/
inductive AppScope where
  /-- All apps but `apps`. -/
  | allBut (apps : AppSet)
  /-- `apps` and no other; with none listed, all. -/
  | only (apps : AppSet)
deriving DecidableEq, Repr, Inhabited

namespace AppScope

/-- The scope for the selection `handling` of the apps `selected`. -/
def of (handling : AppSelection) (selected : AppSet) (owningApp : String) : AppScope :=
  match handling with
  | .disabled => allBut (.singleton owningApp)
  | .exclude => allBut (selected.insert owningApp)
  | .only => only (selected.erase owningApp)

/-- The apps that the scope names. -/
def apps : AppScope → AppSet
  | allBut apps | only apps => apps

/-- The selection that the scope carries out. -/
def handling : AppScope → AppSelection
  | allBut _ => .exclude
  | only _ => .only

end AppScope

end SplitTunnel
