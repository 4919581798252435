import SplitTunnel.Json.Fields

/-!
# What a platform supports (`SPEC_FULL.md` §9, `PlatformCapabilities`)

* `Capabilities.intersect`: what two parties both support.
* `Capabilities.ofJson?`: the record as a document; everything is supported unless said otherwise.
-/

namespace SplitTunnel

/-- The abilities of a platform that not every one has. -/
structure Capabilities where
  /-- Apps can be taken into the tunnel or left out one by one. -/
  perAppScoping : Bool := true
  /-- A family without routes can be let past the tunnel. -/
  familyBypass : Bool := true
  /-- A placeholder interface can be up while profiles are switched. -/
  blockingPlaceholder : Bool := true
deriving DecidableEq, Repr, Inhabited

namespace Capabilities

open Json

/-- What both `a` and `b` support. -/
def intersect (a b : Capabilities) : Capabilities where
  perAppScoping := a.perAppScoping && b.perAppScoping
  familyBypass := a.familyBypass && b.familyBypass
  blockingPlaceholder := a.blockingPlaceholder && b.blockingPlaceholder

/-- The fields in the order in which a record without names gives them. -/
def fieldNames : List String := ["perAppScoping", "familyBypass", "blockingPlaceholder"]

/-- `c` as a document. -/
def toJson (c : Capabilities) : Json :=
  .obj [
    ("perAppScoping", .bool c.perAppScoping),
    ("familyBypass", .bool c.familyBypass),
    ("blockingPlaceholder", .bool c.blockingPlaceholder)]

/-- The capabilities that `v` stands for. -/
def ofJson? (v : Json) : Option Capabilities := do
  let fs ← v.fields? fieldNames
  let d : Capabilities := {}
  some {
    perAppScoping := ← field? fs "perAppScoping" d.perAppScoping bool?
    familyBypass := ← field? fs "familyBypass" d.familyBypass bool?
    blockingPlaceholder := ← field? fs "blockingPlaceholder" d.blockingPlaceholder bool? }

end Capabilities

end SplitTunnel
