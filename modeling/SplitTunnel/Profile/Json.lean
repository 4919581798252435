import SplitTunnel.Json.Fields
import SplitTunnel.Json.Reader
import SplitTunnel.Profile

/-!
# Profiles as documents (`SPEC_FULL.md` §10.3)

* `Profile.toJson` writes every field, absent values as `null`.
* `Profile.ofJson?` reads a record in which every field may be missing, each with the default that
  `Profile` states for it.
-/

namespace SplitTunnel.Profile

open Json

/-- The fields in the order in which a record without names gives them. -/
def fieldNames : List String :=
  ["name", "gateway", "port", "vpnType", "username", "password", "certificateAlias", "localId",
    "remoteId", "ikeProposal", "espProposal", "mtu", "natKeepalive", "flags", "includedSubnets",
    "excludedSubnets", "splitTunneling", "selectedAppsHandling", "selectedApps"]

/-- `p` as a document with every field. -/
def toJson (p : Profile) : Json :=
  .obj [
    ("name", .str p.name),
    ("gateway", .str p.gateway),
    ("port", .opt (fun n => .nat n.toNat) p.port),
    ("vpnType", .str p.vpnType.identifier),
    ("username", .opt .str p.username),
    ("password", .opt .str p.password),
    ("certificateAlias", .opt .str p.certificateAlias),
    ("localId", .opt .str p.localId),
    ("remoteId", .opt .str p.remoteId),
    ("ikeProposal", .opt .str p.ikeProposal),
    ("espProposal", .opt .str p.espProposal),
    ("mtu", .opt (fun n => .nat n.toNat) p.mtu),
    ("natKeepalive", .opt (fun n => .nat n.toNat) p.natKeepalive),
    ("flags", .str p.flags.text),
    ("includedSubnets", .opt .str p.includedSubnets),
    ("excludedSubnets", .opt .str p.excludedSubnets),
    ("splitTunneling", .str p.splitTunneling.text),
    ("selectedAppsHandling", .str p.selectedAppsHandling.name),
    ("selectedApps", .array (p.selectedApps.toList.map .str))]

/-- The number of sixteen bits that `v` is. -/
def word16? (v : Json) : Option UInt16 := (v.natural? 0xFFFF).map UInt16.ofNat

/-- The number of thirty-two bits that `v` is. -/
def word32? (v : Json) : Option UInt32 := (v.natural? 0xFFFFFFFF).map UInt32.ofNat

/-- The options that the text `v` stands for. -/
def flags? (v : Json) : Option ProfileFlags := v.text?.bind ProfileFlags.parse?

/-- The blocked families that the text `v` stands for. -/
def splitTunneling? (v : Json) : Option SplitTunneling := v.text?.bind SplitTunneling.parse?

/-- The apps of a list, which may be in any order and have repetitions. -/
def apps? (v : Json) : Option AppSet := (v.items? text?).map SortedSet.ofList

/-- The profile that `v` stands for. -/
def ofJson? (v : Json) : Option Profile := do
  let fs ← v.fields? fieldNames
  let d : Profile := {}
  some {
    name := ← field? fs "name" d.name text?
    gateway := ← field? fs "gateway" d.gateway text?
    port := ← field? fs "port" d.port (optional? word16?)
    vpnType := ← field? fs "vpnType" d.vpnType (named? VpnType.ofIdentifier?)
    username := ← field? fs "username" d.username (optional? text?)
    password := ← field? fs "password" d.password (optional? text?)
    certificateAlias := ← field? fs "certificateAlias" d.certificateAlias (optional? text?)
    localId := ← field? fs "localId" d.localId (optional? text?)
    remoteId := ← field? fs "remoteId" d.remoteId (optional? text?)
    ikeProposal := ← field? fs "ikeProposal" d.ikeProposal (optional? text?)
    espProposal := ← field? fs "espProposal" d.espProposal (optional? text?)
    mtu := ← field? fs "mtu" d.mtu (optional? word16?)
    natKeepalive := ← field? fs "natKeepalive" d.natKeepalive (optional? word32?)
    flags := ← field? fs "flags" d.flags flags?
    includedSubnets := ← field? fs "includedSubnets" d.includedSubnets (optional? text?)
    excludedSubnets := ← field? fs "excludedSubnets" d.excludedSubnets (optional? text?)
    splitTunneling := ← field? fs "splitTunneling" d.splitTunneling splitTunneling?
    selectedAppsHandling :=
      ← field? fs "selectedAppsHandling" d.selectedAppsHandling (named? AppSelection.ofName?)
    selectedApps := ← field? fs "selectedApps" d.selectedApps apps? }

/-- The profile that the document in `text` stands for. -/
def parse? (text : String) : Option Profile := (Json.parse? text).bind ofJson?

end SplitTunnel.Profile
