import SplitTunnel.Json
import SplitTunnel.Text.Numeral

/-!
# Reading values and fields (`SPEC_FULL.md` §10.3)

A value is read by a function `Json → Option α` that is `none` where the document does not fit.

* `natural?`: a whole number is taken in plain digits only.
* `named?`: a named value may also be the only name of an object, with `null` behind it.
* `fields?`: a record is an object or the array of its fields in order. An object may have names of
  its own, which are not looked at beyond being readable, and has no known name twice. An array may
  end early and does not go on after the last field.
-/

namespace SplitTunnel.Json

open Text

/-- The characters of a string that spells some. -/
def text? : Json → Option String
  | .string s => s
  | _ => none

/-- A truth value. -/
def bool? : Json → Option Bool
  | .bool b => some b
  | _ => none

/-- A number up to `limit`, in plain digits. -/
def natural? (limit : Nat) : Json → Option Nat
  | .number digits => (Text.natural? 10 digits.toList).filter (· ≤ limit)
  | _ => none

/-- `none` for `null`, or a value that `read` takes. -/
def optional? (read : Json → Option α) : Json → Option (Option α)
  | .null => some none
  | v => (read v).map some

/-- The items of an array, each by `read`. -/
def items? (read : Json → Option α) : Json → Option (List α)
  | .array items => items.mapM read
  | _ => none

/-- The value with the given name, by `ofName?`. -/
def named? (ofName? : String → Option α) : Json → Option α
  | .string (some s) => ofName? s
  | .object [(some s, .null)] => ofName? s
  | _ => none

/-- The fields that a record gives, by name; `names` are those in the order of an array. -/
def fields? (names : List String) : Json → Option (List (String × Json))
  | .object members => do
    let readable ← members.mapM fun (k, v) => k.map (·, v)
    let known := readable.filter fun (k, _) => names.contains k
    if (known.map Prod.fst).Nodup then some known else none
  | .array items => if items.length ≤ names.length then some (names.zip items) else none
  | _ => none

/-- The field `name` of a record, or `default` if `fields` does not have it. -/
def field? (fields : List (String × Json)) (name : String) (default : α)
    (read : Json → Option α) : Option α :=
  match fields.lookup name with
  | none => some default
  | some v => read v

end SplitTunnel.Json
