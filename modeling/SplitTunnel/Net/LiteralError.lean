import SplitTunnel.Text.Quoted

/-!
# What is wrong with the text of a block or of a set

The errors of `SPEC_FULL.md` §4.1 (`IpRangeParseError`). Each cause names the whole item in which it
was found. `LiteralError.message` is the wording.
-/

namespace SplitTunnel.Net

/-- Why the text of a block or of an item of a set denotes nothing. -/
inductive LiteralError where
  /-- An address is not one (`Address.ofChars?`). -/
  | invalidAddress (item : List Char)
  /-- A prefix length is no number, or is longer than the address. -/
  | invalidPrefix (item : List Char)
  /-- A span has ends of two families. -/
  | mixedFamilies (item : List Char)
  /-- A span's end comes before its start. -/
  | reversed (item : List Char)
deriving DecidableEq, Repr

namespace LiteralError

/-- The wording of the cause, without `item`. -/
def summary : LiteralError → String
  | invalidAddress _ => "invalid address"
  | invalidPrefix _ => "invalid prefix length"
  | mixedFamilies _ => "range mixes address families"
  | reversed _ => "range ends before it starts"

/-- The text that is at fault, as it stands in the input. -/
def item : LiteralError → List Char
  | invalidAddress i | invalidPrefix i | mixedFamilies i | reversed i => i

/-- `summary` and the quoted `item`. -/
def message (e : LiteralError) : String := e.summary ++ ": " ++ String.ofList (Text.quote e.item)

end LiteralError

end SplitTunnel.Net
