import SplitTunnel.Net.Address
import SplitTunnel.Text.Cut

/-!
# Reading addresses (the bare addresses of `SPEC_FULL.md` §4.1, `from_str`)

* `dotted?` (IPv4): exactly four decimal numbers up to 255 of one to three digits, none with a
  needless zero in front, between dots.
* `colons?` (IPv6): eight hexadecimal numbers of one to four digits between colons, the last two of
  which may be a dotted IPv4 address. One `::` may stand for at least one zero group; what comes
  before it has no dotted form.
-/

namespace SplitTunnel.Net.Address

open Text

/-- One of the four numbers of a `dotted?` text. -/
def octet? (text : List Char) : Option Nat :=
  if text.length ≤ 3 ∧ (text.head? = some '0' → text.length = 1) then
    (natural? 10 text).filter (· < 256)
  else none

/-- The number of a dotted IPv4 address. -/
def dotted? (text : List Char) : Option Nat := do
  let os ← (text.splitOn '.').mapM octet?
  if os.length = 4 then some (ofPlaces 256 os) else none

/-- One of the groups of a `colons?` text. -/
def group? (text : List Char) : Option Nat :=
  if text.length ≤ 4 then natural? 16 text else none

/-- The groups that the parts between colons denote. If `mixed`, the last part may be `dotted?`,
which is two groups. -/
def groups? (mixed : Bool) : List (List Char) → Option (List Nat)
  | [] => some []
  | [part] =>
    match group? part with
    | some g => some [g]
    | none => if mixed then (dotted? part).map (places 65536 2) else none
  | part :: rest => do
    let g ← group? part
    let gs ← groups? mixed rest
    some (g :: gs)

/-- The groups on one side of `::`; an empty `text` has none. -/
def side? (mixed : Bool) (text : List Char) : Option (List Nat) :=
  if text.isEmpty then some [] else groups? mixed (text.splitOn ':')

/-- The number of an IPv6 address. -/
def colons? (text : List Char) : Option Nat :=
  match cutGap ':' text with
  | none => do
    let gs ← groups? true (text.splitOn ':')
    if gs.length = 8 then some (ofPlaces 65536 gs) else none
  | some (before, after) => do
    let left ← side? false before
    let right ← side? true after
    if left.length + right.length ≤ 7 then
      some (ofPlaces 65536
        (left ++ List.replicate (8 - left.length - right.length) 0 ++ right))
    else none

/-- The address whose dotted or colon form `text` is. -/
def ofChars? (text : List Char) : Option Address :=
  match dotted? text with
  | some n => ofNat? .ipv4 n
  | none => (colons? text).bind (ofNat? .ipv6)

/-- `ofChars?` of the characters of `text`. -/
def parse? (text : String) : Option Address := ofChars? text.toList

end SplitTunnel.Net.Address
