import SplitTunnel.Text.Numeral
import SplitTunnel.Text.Quoted.Unseen

/-!
# Quoted text

How the errors of `SPEC_FULL.md` §7.1 quote the text that is at fault: between double quotes, so
that every character can be told by sight.

* `quoteChar`: a quote and a backslash stand after a backslash, five control characters have a
  letter of their own, and any other character that `isUnseen` is written by its code point.
* `quote`: the whole text, an apostrophe being left as it is.
-/

namespace SplitTunnel.Text

/-- `c` is written by its code point inside quotes. -/
def isUnseen (c : Char) : Bool :=
  c.toNat < 0x20 ||
    (0x7E < c.toNat && unseenRanges.any fun (lo, hi) => lo ≤ c.toNat && c.toNat ≤ hi)

/-- `c` as it stands inside quotes. -/
def quoteChar (c : Char) : List Char :=
  if c = '"' then ['\\', '"']
  else if c = '\\' then ['\\', '\\']
  else if c = '\n' then ['\\', 'n']
  else if c = '\r' then ['\\', 'r']
  else if c = '\t' then ['\\', 't']
  else if c = '\x00' then ['\\', '0']
  else if isUnseen c then ['\\', 'u', '\x7b'] ++ hexadecimal c.toNat ++ ['\x7d']
  else [c]

/-- `text` in double quotes, each character by `quoteChar`. -/
def quote (text : List Char) : List Char := '"' :: text.flatMap quoteChar ++ ['"']

end SplitTunnel.Text
