import SplitTunnel.Json
import SplitTunnel.Text.Numeral

/-!
# Writing JSON (`SPEC_FULL.md` §10.3)

The compact form: no blank between tokens, every character as it is except quotes, backslashes
and control characters.

* `escape`: a character inside a string.
* `render`: the document as a text.
-/

namespace SplitTunnel.Json

open Text

/-- `c` as it stands inside a string. -/
def escape (c : Char) : List Char :=
  if c = '"' then ['\\', '"']
  else if c = '\\' then ['\\', '\\']
  else if c = '\n' then ['\\', 'n']
  else if c = '\r' then ['\\', 'r']
  else if c = '\t' then ['\\', 't']
  else if c = '\x08' then ['\\', 'b']
  else if c = '\x0c' then ['\\', 'f']
  else if c.toNat < 16 then ['\\', 'u', '0', '0', '0'] ++ hexadecimal c.toNat
  else if c.toNat < 32 then ['\\', 'u', '0', '0'] ++ hexadecimal c.toNat
  else [c]

/-- `s` in double quotes, each character by `escape`. -/
def renderString (s : List Char) : List Char := '"' :: s.flatMap escape ++ ['"']

/-- Half of a surrogate pair, for a string that spells no characters. -/
def unreadable : List Char := ['"', '\\', 'u', 'd', '8', '0', '0', '"']

/-- A string, or `unreadable` for one that spells no characters. -/
def renderText : Option String → List Char
  | some s => renderString s.toList
  | none => unreadable

mutual

/-- The document as a text. -/
def render : Json → List Char
  | .null => "null".toList
  | .bool true => "true".toList
  | .bool false => "false".toList
  | .number digits => digits.toList
  | .string s => renderText s
  | .array items => '[' :: [','].intercalate (renderItems items) ++ [']']
  | .object members => '\x7b' :: [','].intercalate (renderMembers members) ++ ['\x7d']

/-- The texts of the items of an array. -/
def renderItems : List Json → List (List Char)
  | [] => []
  | v :: rest => render v :: renderItems rest

/-- The texts of the members of an object. -/
def renderMembers : List (Option String × Json) → List (List Char)
  | [] => []
  | (k, v) :: rest => (renderText k ++ ':' :: render v) :: renderMembers rest

end

end SplitTunnel.Json
