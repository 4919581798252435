import SplitTunnel.Net.Address.Parser
import SplitTunnel.Net.Address.Printer

/-!
# Interface addresses (`SPEC_FULL.md` §4.3, `add_address`; §10.5, `--address`)

An address together with the length of the network it is in. Unlike a block it keeps all bits of
the address.

* `InterfaceAddress.parse?` reads `address`, `address/length` and, for IPv4, `address/netmask`
  with a mask that is ones followed by zeros. A bare address is a network of its own.
-/

namespace SplitTunnel.Net

open Text

/-- An address and the length of the prefix of its network. -/
structure InterfaceAddress where
  address : Address
  prefixLength : Nat
  prefixLength_le : prefixLength ≤ address.family.width
deriving DecidableEq, Repr

namespace InterfaceAddress

/-- `a` in a network of length `n`, if `n ≤ a.family.width`. -/
def of? (a : Address) (n : Nat) : Option InterfaceAddress :=
  if h : n ≤ a.family.width then some ⟨a, n, h⟩ else none

/-- The number of leading ones of an IPv4 netmask, if `mask` is ones followed by zeros. -/
def maskLength? (mask : Nat) : Option Nat :=
  (List.range 33).find? fun n => mask == Family.ipv4.size - 2 ^ (32 - n)

/-- The length that `text` after the slash stands for: a number, or for IPv4 a netmask. -/
def length? (f : Family) (text : List Char) : Option Nat :=
  match f, Address.dotted? text with
  | .ipv4, some mask => maskLength? mask
  | _, _ => unsigned? 10 255 text

/-- The interface address that `text` denotes. -/
def ofChars? (text : List Char) : Option InterfaceAddress :=
  match cut '/' text with
  | none => do
    let a ← Address.ofChars? text
    of? a a.family.width
  | some (addressPart, lengthPart) => do
    let a ← Address.ofChars? addressPart
    let n ← length? a.family lengthPart
    of? a n

/-- `ofChars?` of the characters of `text`. -/
def parse? (text : String) : Option InterfaceAddress := ofChars? text.toList

end InterfaceAddress

end SplitTunnel.Net
