import SplitTunnel.Net.Address.Parser
import SplitTunnel.Net.Address.Printer
import SplitTunnel.Net.Block
import SplitTunnel.Net.LiteralError

/-!
# Blocks as text (`SPEC_FULL.md` §3, `IpRange`)

A block is written as its first address, a slash and its length.

* `Block.ofChars` takes that form with any address of the block, and a bare address for the block
  of that address alone. The length may have a plus sign and leading zeros.
* The address is checked before the length, and an error names the whole text.
-/

namespace SplitTunnel.Net.Block

open Text

/-- `b` as `base/prefixLength`. -/
def chars (b : Block) : List Char := b.base.chars ++ '/' :: decimal b.prefixLength

/-- `b.chars` as a string. -/
def text (b : Block) : String := String.ofList b.chars

/-- `of? a n`, or the error that names `a` and `n`. -/
def around (a : Address) (n : Nat) : Except LiteralError Block :=
  match of? a n with
  | some b => .ok b
  | none => .error (.invalidPrefix (a.chars ++ '/' :: decimal n))

/-- The block that `item` denotes: `address/length`, or `address` for `host`. -/
def ofChars (item : List Char) : Except LiteralError Block :=
  match cut '/' item with
  | none =>
    match Address.ofChars? item with
    | some a => .ok (host a)
    | none => .error (.invalidAddress item)
  | some (addressPart, lengthPart) =>
    match Address.ofChars? addressPart with
    | none => .error (.invalidAddress item)
    | some a =>
      match (unsigned? 10 255 lengthPart).bind (of? a) with
      | some b => .ok b
      | none => .error (.invalidPrefix item)

/-- `ofChars` of the characters of `text`. -/
def parse (text : String) : Except LiteralError Block := ofChars text.toList

end SplitTunnel.Net.Block
