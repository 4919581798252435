/-!
# JSON documents (`SPEC_FULL.md` §10.3)

A document as it stands in its text, with nothing lost that a reader of fields may ask for.

* A number keeps its digits, because `1`, `1.0` and `1e0` are told apart.
* A string is `none` when its text spells no sequence of characters: half of a surrogate pair, or
  bytes that are no characters. Such a string may stand where nobody reads it.
* An object keeps its members in order, repeated names included.
-/

namespace SplitTunnel

/-- A JSON value. -/
inductive Json where
  | null
  | bool (b : Bool)
  | number (digits : String)
  | string (text : Option String)
  | array (items : List Json)
  | object (members : List (Option String × Json))
deriving Inhabited

namespace Json

/-- A string that spells `s`. -/
def str (s : String) : Json := .string (some s)

/-- The number `n` in plain digits. -/
def nat (n : Nat) : Json := .number (toString n)

/-- An object of members with distinct names. -/
def obj (members : List (String × Json)) : Json := .object (members.map fun (k, v) => (some k, v))

/-- `null` for `none`, and else the encoded value. -/
def opt (encode : α → Json) : Option α → Json
  | none => .null
  | some a => encode a

end Json

end SplitTunnel
