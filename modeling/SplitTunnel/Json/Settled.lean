import SplitTunnel.Json.Reader

/-!
# Documents as values

A document as whoever keeps all of it sees it, and not only some fields: a line of a log file
(`SPEC_FULL.md` §10.1) is a record if it can be read so.

* `isDouble`: a number is within the range of double precision.
* `settleNumber?`: whole numbers of 64 bits are told apart from all others.
* `settled?`: the document with every string spelt and every number in range, at most `maxLevels`
  containers inside one another, and of the members with one name the last.
-/

namespace SplitTunnel.Json

open Text

/-! ## Numbers -/

/-- The digits of `text`, a number without a sign, as one whole number, and the power of ten it
counts. -/
def scaled (text : List Char) : Nat × Int :=
  let value (digits : List Char) : Nat := (Text.natural? 10 digits).getD 0
  let whole := text.takeWhile Char.isDigit
  let rest := text.dropWhile Char.isDigit
  let fraction := match rest with
    | '.' :: rest => rest.takeWhile Char.isDigit
    | _ => []
  let exponent : Int := match rest.dropWhile fun c => c != 'e' && c != 'E' with
    | _ :: '-' :: digits => -(value digits : Int)
    | _ :: '+' :: digits => value digits
    | _ :: digits => value digits
    | [] => 0
  (value (whole ++ fraction), exponent - fraction.length)

/-- The least number that rounds to no double. -/
def doubleEnd : Nat := 2 ^ (1024 : Nat) - 2 ^ (970 : Nat)

/-- `text`, a number without a sign, is below `doubleEnd`. The count of its digits decides first, so
that no needless power is worked out. -/
def isDouble (text : List Char) : Bool :=
  let (n, e) := scaled text
  let digits : Int := (decimal n).length
  if n = 0 then true
  else if digits + e ≤ 308 then true
  else if digits + e > 309 then false
  else n * 10 ^ e.toNat < doubleEnd * 10 ^ (-e).toNat

/-- `text` is a whole number as it stands and fits in 64 bits, with or without a sign. -/
def isWord64 (text : List Char) : Bool :=
  match text with
  | '-' :: digits => (Text.natural? 10 digits).any fun n => 0 < n && n ≤ UInt64.size / 2
  | digits => (Text.natural? 10 digits).any (· < UInt64.size)

/-- A number in range. One that counts as a real number is written with a point or an exponent. -/
def settleNumber? (digits : String) : Option Json :=
  let text := digits.toList
  let unsigned := if text.head? = some '-' then text.drop 1 else text
  if isWord64 text then some (.number digits)
  else if !isDouble unsigned then none
  else if unsigned.all Char.isDigit then some (.number (digits ++ ".0"))
  else some (.number digits)

/-! ## Documents -/

/-- Of `members` the last value for each name, in the order of those. -/
def lastMembers (members : List (Option String × Json)) : List (Option String × Json) :=
  members.foldl (fun out m => out.filter (·.1 != m.1) ++ [m]) []

mutual

/-- The document as a value, if it has at most `levels` containers inside one another. -/
def settleWithin? (levels : Nat) : Json → Option Json
  | .null => some .null
  | .bool b => some (.bool b)
  | .number digits => settleNumber? digits
  | .string text => text.map str
  | .array items =>
    if levels = 0 then none else (settleItems? (levels - 1) items).map .array
  | .object members =>
    if levels = 0 then none
    else (settleMembers? (levels - 1) members).map fun ms => .object (lastMembers ms)

/-- The items of an array as values. -/
def settleItems? (levels : Nat) : List Json → Option (List Json)
  | [] => some []
  | v :: rest => do return (← settleWithin? levels v) :: (← settleItems? levels rest)

/-- The members of an object as values. -/
def settleMembers? (levels : Nat) :
    List (Option String × Json) → Option (List (Option String × Json))
  | [] => some []
  | (k, v) :: rest => do
    return (some (← k), ← settleWithin? levels v) :: (← settleMembers? levels rest)

end

/-- The most containers inside one another that `settled?` takes. -/
def maxLevels : Nat := 127

/-- The document as a value, with at most `maxLevels` containers inside one another. -/
def settled? : Json → Option Json := settleWithin? maxLevels

end SplitTunnel.Json
