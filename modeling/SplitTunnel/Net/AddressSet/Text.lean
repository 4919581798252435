import SplitTunnel.Net.Block.Text
import SplitTunnel.Net.Cover
import SplitTunnel.Text.Blank

/-!
# Address sets as text (`SPEC_FULL.md` §4.1, `from_str` and `Display`)

A set is written as its smallest list of blocks, with a space between two.

* `AddressSet.parse` takes items between blanks: blocks, single addresses, and spans `from-to` of
  two plain addresses.
* Of a span, `from` is checked first, then `to`, then that the families agree, then the order.
* The first bad item is the error, whatever comes after it.
-/

namespace SplitTunnel.Net

open Text

/-- The addresses that one item of a set's text stands for: `span`, of family `family`. -/
structure AddressSet.Item where
  family : Family
  span : Span family
deriving DecidableEq, Repr

namespace AddressSet

/-- The span from `a` to `b`, or why there is none; errors name `item`. -/
def Item.between (item : List Char) (a b : Address) : Except LiteralError Item :=
  if a.family = b.family then
    match Span.of? a.family a.value b.value with
    | some s => .ok ⟨a.family, s⟩
    | none => .error (.reversed item)
  else .error (.mixedFamilies item)

/-- The addresses that `item` stands for: `from-to`, or a block. -/
def Item.ofChars (item : List Char) : Except LiteralError Item :=
  match cut '-' item with
  | none => (Block.ofChars item).map fun b => ⟨b.family, b.span⟩
  | some (start, stop) =>
    match Address.ofChars? start, Address.ofChars? stop with
    | some a, some b => Item.between item a b
    | _, _ => .error (.invalidAddress item)

/-- Adds the items one after another to `s`, up to the first that `Item.ofChars` refuses. -/
def addItems (s : AddressSet) : List (List Char) → Except LiteralError AddressSet
  | [] => .ok s
  | item :: rest =>
    match Item.ofChars item with
    | .ok i => (s.addSpan i.span).addItems rest
    | .error e => .error e

/-- The set of the items of `text`. -/
def ofChars (text : List Char) : Except LiteralError AddressSet := empty.addItems (words text)

/-- `ofChars` of the characters of `text`. -/
def parse (text : String) : Except LiteralError AddressSet := ofChars text.toList

/-- The blocks of `s.subnets`, joined by spaces. -/
def chars (s : AddressSet) : List Char := [' '].intercalate (s.subnets.map Block.chars)

/-- `s.chars` as a string. -/
def text (s : AddressSet) : String := String.ofList s.chars

end AddressSet

end SplitTunnel.Net
