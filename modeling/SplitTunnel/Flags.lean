import SplitTunnel.Text.Blank
import SplitTunnel.Text.Numeral

/-!
# Flag words as text (`SPEC_FULL.md` §3)

A word of flags is written as the names of the flags that are set, in the order of a table, joined
by ` | `. Bits without a name follow as one hexadecimal number.

* `FlagTable.read?` takes names and hexadecimal numbers in any order, with blanks around each; a
  blank text is the empty word. Numbers that do not fit the word, and parts that are neither, are
  refused.
-/

namespace SplitTunnel

open Text

/-- The names of the bits of a word, in the order in which they are written. -/
structure FlagTable where
  width : Nat
  names : List (String × Nat)

namespace FlagTable

/-- The bits that one `part` of a text stands for: a name of `t`, or a hexadecimal number. -/
def part? (t : FlagTable) (part : List Char) : Option Nat :=
  match part with
  | '0' :: 'x' :: digits => unsigned? 16 (2 ^ t.width - 1) digits
  | _ => t.names.lookup (String.ofList part)

/-- The word that `text` stands for. -/
def read? (t : FlagTable) (text : List Char) : Option Nat :=
  if (trim text).isEmpty then some 0
  else ((text.splitOn '|').mapM fun part => t.part? (trim part)).map (·.foldl (· ||| ·) 0)

/-- The names of the flags of `t` that are set in `bits`. -/
def setNames (t : FlagTable) (bits : Nat) : List String :=
  (t.names.filter fun (_, flag) => bits &&& flag == flag).map Prod.fst

/-- What is left of `bits` when those of the flags that are set are taken away. -/
def unnamed (t : FlagTable) (bits : Nat) : Nat :=
  t.names.foldl (fun rest (_, flag) => if rest &&& flag = flag then rest ^^^ flag else rest) bits

/-- The `setNames`, and the `unnamed` bits if there are any. -/
def parts (t : FlagTable) (bits : Nat) : List (List Char) :=
  (t.setNames bits).map String.toList ++
    if t.unnamed bits = 0 then [] else ['0' :: 'x' :: hexadecimal (t.unnamed bits)]

/-- The `parts` of `bits`, joined by ` | `. -/
def write (t : FlagTable) (bits : Nat) : List Char := [' ', '|', ' '].intercalate (t.parts bits)

end FlagTable

end SplitTunnel
