import SplitTunnel.Profile.Json
import SplitTunnel.Routeplan.Options
import SplitTunnel.ServiceConfig
import SplitTunnel.Tunnel

/-!
# The route planner (`SPEC_FULL.md` §10.5, `routeplan`)

Shows what a profile turns into without touching any interface: the calls that a tunnel makes on a
platform that agrees to everything.

* `plan`: the calls, and why there are no more of them.
-/

namespace SplitTunnel.Routeplan

open Net

/-- What the planner shows. -/
structure Report where
  /-- The calls in words, one a line. -/
  lines : List String
  /-- Why the planner failed. -/
  failure : Option String
deriving DecidableEq, Repr

/-- What can be used of what `c` allows, by the switches of `o`. -/
def capabilities (o : Options) (c : ServiceConfig) : Capabilities :=
  { c.capabilities with
    perAppScoping := c.capabilities.perAppScoping && !o.noAppScoping
    familyBypass := c.capabilities.familyBypass && !o.noFamilyBypass }

/-- An event as the planner shows it: the call of a builder, and nothing of any other event. -/
def line? : Event → Option String
  | .called _ c _ => some c.text
  | .established .. => some "establish"
  | .created .. | .drained _ | .closed _ => none

/-- The report when the tunnel has come to `t`. -/
def report (t : Tunnel) (failure : Option String) : Report :=
  ⟨t.host.events.filterMap line?, failure⟩

/-- Gives `t` one thing after another, up to the first that it refuses; `refused` says which. -/
def giveAll (give : Tunnel → α → Tunnel × Bool) (refused : α → String) (t : Tunnel) :
    List α → Tunnel × Option String
  | [] => (t, none)
  | a :: rest =>
    match give t a with
    | (t, true) => giveAll give refused t rest
    | (t, false) => (t, some (refused a))

/-- `a` as an argument of the command line. -/
def argument (a : InterfaceAddress) : String := Call.addressText a.address a.prefixLength

/-- Gives `t` all addresses, routes and servers that `o` holds. -/
def give (p : Platform) (o : Options) (t : Tunnel) : Tunnel × Option String :=
  match giveAll (fun t (a : InterfaceAddress) => t.addAddress a.address.text a.prefixLength)
      (fun a => "rejected address " ++ argument a) t o.addresses with
  | (t, some e) => (t, some e)
  | (t, none) =>
    match giveAll (fun t (a : InterfaceAddress) => t.addRoute a.address.text a.prefixLength)
        (fun a => "rejected route " ++ argument a) t o.routes with
    | (t, some e) => (t, some e)
    | (t, none) =>
      giveAll (fun t (a : Address) => t.addDnsServer p a.text)
        (fun a => "rejected dns server " ++ a.text) t o.dnsServers

/-- Brings up what `o` asks for. -/
def bringUp (p : Platform) (o : Options) (t : Tunnel) : Tunnel × Option String :=
  if o.blocking then
    match t.raisePlaceholder p with
    | (t, .ok ()) => (t.lowerPlaceholder, none)
    | (t, .error e) => (t, some e.message)
  else
    match give p o t with
    | (t, some e) => (t, some e)
    | (t, none) =>
      match t.establish p with
      | (t, .ok _) => (t, none)
      | (t, .error e) => (t, some e.message)

/-- The plan for `profile` on `p`. -/
def planFor (p : Platform) (o : Options) (c : ServiceConfig) (profile : Profile) : Report :=
  let t := Tunnel.start (capabilities o c) (capabilities o c) (o.owningApp.getD c.owningAppId)
  match t.setProfile profile with
  | (t, .error e) => report t (some e.message)
  | (t, .ok ()) =>
    let (t, failure) := bringUp p o t
    report t failure

/-- The profile in the file `path`, which reads as given. -/
def profile (path : String) : Reading → Except String Profile
  | .missing | .refused => .error ("failed to open profile " ++ path)
  | .unreadable => .error "failed to parse profile"
  | .content bytes =>
    match (Json.ofSymbols? (Text.symbols bytes)).bind Profile.ofJson? with
    | some p => .ok p
    | none => .error "failed to parse profile"

/-- The plan for what the files of `o` hold. `configFile` is looked at first; without one the
defaults hold, as for a missing file. -/
def plan (p : Platform) (o : Options) (configFile profileFile : Reading) : Report :=
  match ServiceConfig.load configFile with
  | .error e => ⟨[], some e.message⟩
  | .ok c =>
    match profile o.profile profileFile with
    | .error e => ⟨[], some e⟩
    | .ok profile => planFor p o c profile

end SplitTunnel.Routeplan
