import SplitTunnel.Platform.Host

/-!
# A platform by rules (`SPEC_FULL.md` §10.4, the recording platform)

A platform whose decisions are written down beforehand: some calls are refused, and asking for an
interface comes out in one way.

* `Rules.platform`: the platform that the rules describe.
-/

namespace SplitTunnel.Rehearsal

/-- A kind of refusal. -/
inductive Refusal where
  | invalid
  | unknown
  | platform
deriving DecidableEq, Repr

namespace Refusal

def all : List Refusal := [invalid, unknown, platform]

/-- The name of the kind. -/
def name : Refusal → String
  | invalid => "invalid"
  | unknown => "unknown"
  | platform => "platform"

/-- The kind `r` with `r.name = s`. -/
def ofName? (s : String) : Option Refusal := all.find? fun r => r.name == s

/-- The refusal of `what`. -/
def of (what : String) : Refusal → Rejection
  | invalid => .invalidArgument what
  | unknown => .unknownApplication what
  | platform => .platform what

/-- The kind of a refusal. -/
def ofRejection : Rejection → Refusal
  | .invalidArgument _ => invalid
  | .unknownApplication _ => unknown
  | .platform _ => platform

end Refusal

/-- What comes of asking for an interface. -/
inductive Issue where
  | up
  | declined
  | refused (r : Refusal)
  /-- The interface comes up, and then nothing more can be opened. -/
  | exhausting
deriving DecidableEq, Repr

namespace Issue

/-- The issue with the given name. -/
def ofName? (s : String) : Option Issue :=
  if s = "ok" then some up
  else if s = "decline" then some declined
  else if s = "exhaust" then some exhausting
  else (Refusal.ofName? s).map refused

end Issue

/-- How a platform decides. -/
structure Rules where
  /-- What is refused: a call in words, or the name of a call for all that it may say. -/
  refused : List (String × Refusal) := []
  issue : Issue := .up
  /-- Readers can be started. -/
  threads : Bool := true
deriving DecidableEq, Repr, Inhabited

namespace Rules

/-- How `c` is refused, if it is. What is said about the very call goes before its name. -/
def refusal? (r : Rules) (c : Call) : Option Refusal :=
  (r.refused.lookup c.text).or (r.refused.lookup c.name)

/-- The platform that `r` describes. -/
def platform (r : Rules) : Platform where
  answer _ _ c := (r.refusal? c).map (Refusal.of c.argument)
  establish _ _ :=
    match r.issue with
    | .up | .exhausting => .up
    | .declined => .declined
    | .refused kind => .failed (kind.of "establish")
  startsDrain _ := r.threads && r.issue != .exhausting

end Rules

end SplitTunnel.Rehearsal
