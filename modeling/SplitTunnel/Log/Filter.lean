import SplitTunnel.Text.Blank
import SplitTunnel.Text.Pattern

/-!
# Which records are logged (`SPEC_FULL.md` §10.1, `EnvFilter`)

A filter is a list of directives between commas. A directive is a threshold, or it names what it is
about, with a threshold behind an equals sign or none: `target`, `target[span]`, `[span]`,
`target[span{field}]`, `[{field=value}]` and the like. One that is nothing of the kind is
passed over.

* `Directive.ofChars?`: the directive in a text.
* `Directive.concerns`: a directive is about a record. Directives that name a span, or the value of
  a field, are about no record, because nothing is logged inside of a span here.
* `Filter.enables`: of the directives about a record the most specific one decides. A record without
  such a directive is not logged.
* `Filter.ofChars`: the filter in a text; without any directive all from `info` on is logged.
-/

namespace SplitTunnel.Log

open Text

/-- How important a record is. -/
inductive Level where
  | error
  | warn
  | info
  | debug
  | trace
deriving DecidableEq, Repr, Inhabited

namespace Level

def all : List Level := [error, warn, info, debug, trace]

/-- The name of the level in a filter. -/
def name : Level → String
  | error => "error"
  | warn => "warn"
  | info => "info"
  | debug => "debug"
  | trace => "trace"

/-- The name of the level in a record. -/
def label : Level → String
  | error => "ERROR"
  | warn => "WARN"
  | info => "INFO"
  | debug => "DEBUG"
  | trace => "TRACE"

/-- The number of the level, one for the most important. -/
def rank : Level → Nat
  | error => 1
  | warn => 2
  | info => 3
  | debug => 4
  | trace => 5

end Level

/-- The least important level that is logged, or `none` if none is. -/
abbrev Threshold := Option Level

namespace Threshold

/-- Records of level `l` are logged at `t`. -/
def admits (t : Threshold) (l : Level) : Bool :=
  match t with
  | none => false
  | some least => l.rank ≤ least.rank

/-- The threshold with number `n`. -/
def ofNumber? (n : Nat) : Option Threshold :=
  if n = 0 then some none else (Level.all.find? fun l => l.rank == n).map some

/-- The threshold with the given name, in letters of either case. -/
def ofName? (name : List Char) : Option Threshold :=
  let lower := String.ofList (name.map Char.toLower)
  if lower = "off" then some none else (Level.all.find? fun l => l.name == lower).map some

/-- The threshold that `text` denotes, by number or by name. -/
def ofChars? (text : List Char) : Option Threshold :=
  match unsigned? 10 (UInt64.size - 1) text with
  | some n => ofNumber? n
  | none => ofName? text

end Threshold

/-- A field that a directive asks for, maybe with a value. -/
structure Field where
  name : List Char
  value : Option (List Char) := none
deriving DecidableEq, Repr

/-- The field in `text`. A value is a number or a regular expression, and ends at a second equals
sign. -/
def Field.ofChars? (text : List Char) : Option Field :=
  match text.splitOn '=' with
  | [] => none
  | [name] => some { name }
  | name :: value :: _ =>
    if Text.isReal value || isPattern value then some { name, value := some value } else none

/-- One rule of a filter. -/
structure Directive where
  /-- How the targets of the records start. -/
  target : Option (List Char) := none
  /-- The name of a span around the records. -/
  span : Option (List Char) := none
  /-- A field that the records have. -/
  field : Option Field := none
  threshold : Threshold
deriving DecidableEq, Repr

namespace Directive

/-! ## Reading -/

/-- `c` may be the first character of a target. -/
def isStart (c : Char) : Bool := c == '_' || c == '-' || c == ':' || isAlphanumeric c

/-- The threshold `text` after an equals sign, where nothing stands for everything. -/
def threshold? (text : List Char) : Option Threshold :=
  if text.isEmpty then some (some .trace) else Threshold.ofChars? text

/-- The characters of `text` from position `first` up to `last`. -/
def slice (text : List Char) (first last : Nat) : List Char := (text.take last).drop first

/-- The position of the first character of `text` from `first` on that passes `test`, or the end. -/
def seek (test : Char → Bool) (text : List Char) (first : Nat) : Nat :=
  first + ((text.drop first).takeWhile fun c => !test c).length

/-- `d` with the threshold of a directive whose brackets end before position `first`. -/
def close? (text seen : List Char) (d : Directive) (first : Nat) : Option Directive :=
  match seen.drop first with
  | [] => some d
  | '=' :: _ => (threshold? (text.drop (first + 1))).map fun threshold => { d with threshold }
  | _ => none

/-- What stands in brackets that open before position `first`: the name of a span, a field in
braces, or both. -/
def brackets? (text seen : List Char) (target : Option (List Char)) (first : Nat) :
    Option Directive :=
  let stop := seek (fun c => c == ']' || c == '\x7b') seen first
  let d : Directive := { target, threshold := some .trace }
  match seen.drop stop with
  | [] => none
  | ']' :: _ => close? text seen { d with span := some (slice text first stop) } (stop + 1)
  | _ :: _ =>
    let last := seek (· == '\x7d') seen (stop + 1)
    let span := if stop = first then none else some (slice text first stop)
    match seen.drop last with
    | _ :: ']' :: _ =>
      if last = stop + 1 then none
      else
        (Field.ofChars? (slice text (stop + 1) last)).bind fun f =>
          close? text seen { d with span, field := some f } (last + 2)
    | _ => none

/-- The directive in `text`, which is looked at without the blanks around it, while its parts are
then taken from the text as it is, at the same positions. -/
def ofChars? (text : List Char) : Option Directive :=
  let seen := trim text
  match seen with
  | [] => none
  | c :: _ =>
    if c = '[' then brackets? text seen none 1
    else if !isStart c then none
    else
      let stop := seek (fun c => c == '=' || c == '[') seen 1
      match seen.drop stop with
      | [] =>
        match Threshold.ofChars? text with
        | some threshold => some { threshold }
        | none => some { target := some text, threshold := some .trace }
      | '=' :: _ =>
        (threshold? (text.drop (stop + 1))).map fun threshold =>
          { target := some (text.take stop), threshold }
      | _ :: _ => brackets? text seen (some (text.take stop)) (stop + 1)

/-! ## Deciding -/

/-- `d` is about the records of `target` that have `fields`. -/
def concerns (d : Directive) (target : List Char) (fields : List String) : Bool :=
  d.span.isNone && d.target.all (·.isPrefixOf target) &&
    d.field.all fun f => f.value.isNone && fields.contains (String.ofList f.name)

/-- How specific `d` is: the length of its target first, then whether it asks for a field, then the
name of the field. -/
def specificity (d : Directive) : List Nat :=
  (d.target.map fun t => t.length + 1).getD 0 ::
    ((d.field.map fun f => 0 :: f.name.map Char.toNat).getD [])

/-- The more specific one of two directives, `e` among equals. -/
def prevailing (d : Option Directive) (e : Directive) : Option Directive :=
  match d with
  | none => some e
  | some d => if e.specificity < d.specificity then some d else some e

end Directive

/-- The directives that decide about records, in order. -/
structure Filter where
  directives : List Directive
deriving DecidableEq, Repr, Inhabited

namespace Filter

/-- The filter in `text`. -/
def ofChars (text : List Char) : Filter :=
  match ((text.splitOn ',').filter (!·.isEmpty)).filterMap Directive.ofChars? with
  | [] => ⟨[{ threshold := some .info }]⟩
  | directives => ⟨directives⟩

/-- The threshold for the records of `target` that have `fields`. -/
def threshold (f : Filter) (target : List Char) (fields : List String) : Threshold :=
  ((f.directives.filter (·.concerns target fields)).foldl Directive.prevailing none).bind
    Directive.threshold

/-- A record of level `l` is logged if it is about `target` and has `fields`. -/
def enables (f : Filter) (target : String) (fields : List String) (l : Level) : Bool :=
  (f.threshold target.toList fields).admits l

end Filter

end SplitTunnel.Log
