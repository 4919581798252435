import SplitTunnel.Text.Alphanumeric
import SplitTunnel.Text.Numeral

/-!
# Regular expressions

Which texts are regular expressions that an automaton can be built from without tables of
characters. Values of fields in log filters (`SPEC_FULL.md` §10.1) are such expressions.

* `Pattern.escape?`: what stands after a backslash.
* `Pattern.group?`: what opens a group, or changes the modes for the rest of one.
* `Pattern.class?`: a class in brackets, other classes inside it included.
* `isPattern`: the whole expression.

Repetitions are written with `?`, `*` and `+`. An expression with a count in braces is none here.
-/

namespace SplitTunnel.Text

namespace Pattern

/-- How the characters of an expression are taken. -/
structure Modes where
  /-- Sets of characters are those of all scripts, for which there are no tables. -/
  wide : Bool := true
  /-- Upper and lower case are the same, which in the wide mode takes tables. -/
  caseless : Bool := false
deriving DecidableEq, Repr

/-- What stands for a character, or for a place between two. -/
inductive Atom where
  | char (c : Char)
  /-- Some of the ASCII characters. -/
  | set
  /-- A place between two characters. -/
  | place
deriving DecidableEq, Repr

/-- A character stands for itself in the modes `m`. -/
def Modes.takes (m : Modes) : Bool := !(m.wide && m.caseless)

/-! ## Escapes -/

/-- The character with a code point of exactly `count` hexadecimal digits, and the text after it. -/
def codePoint? (count : Nat) (text : List Char) : Option (Char × List Char) :=
  let digits := text.take count
  if digits.length = count then
    (natural? 16 digits).bind fun n =>
      if h : n.isValidChar then some (Char.ofNatAux n h, text.drop count) else none
  else none

/-- `c` may be escaped to stand for itself. -/
def isEscapable (c : Char) : Bool :=
  c.toNat < 0x80 && !c.isAlphanum && c != '<' && c != '>'

/-- What stands after a backslash, and the text after it. -/
def escape? (m : Modes) (text : List Char) : Option (Atom × List Char) :=
  match text with
  | [] => none
  | c :: rest =>
    if isEscapable c then some (.char c, rest)
    else
      match c with
      | 'a' => some (.char '\x07', rest)
      | 'f' => some (.char '\x0c', rest)
      | 'n' => some (.char '\n', rest)
      | 'r' => some (.char '\r', rest)
      | 't' => some (.char '\t', rest)
      | 'v' => some (.char '\x0b', rest)
      | 'x' => (codePoint? 2 rest).map fun (c, rest) => (.char c, rest)
      | 'u' => (codePoint? 4 rest).map fun (c, rest) => (.char c, rest)
      | 'U' => (codePoint? 8 rest).map fun (c, rest) => (.char c, rest)
      | 'A' | 'z' => some (.place, rest)
      | 'b' | 'B' | '<' | '>' => if m.wide then none else some (.place, rest)
      | 'd' | 's' | 'w' => if m.wide then none else some (.set, rest)
      | _ => none

/-! ## Groups -/

/-- `m` after the letters of a group. A minus sign turns off those behind it. No letter stands
twice, and something stands behind the sign. -/
def Modes.change? (m : Modes) (letters : List Char) : Option Modes :=
  let on := letters.takeWhile (· != '-')
  let off := (letters.dropWhile (· != '-')).drop 1
  if (on ++ off).all "imsUuRx".toList.contains && decide (on ++ off).Nodup &&
      (on.length = letters.length || !off.isEmpty) then
    some {
      wide := (m.wide || on.contains 'u') && !off.contains 'u'
      caseless := (m.caseless || on.contains 'i') && !off.contains 'i' }
  else none

/-- `name` may be the name of a group. -/
def isGroupName (name : List Char) : Bool :=
  match name with
  | [] => false
  | c :: rest =>
    (c == '_' || (isAlphanumeric c && !c.isDigit)) &&
      rest.all fun c => c == '_' || c == '.' || c == '[' || c == ']' || isAlphanumeric c

/-- What an opening parenthesis begins. -/
inductive Opening where
  /-- A group with modes of its own, and its name. -/
  | group (m : Modes) (name : Option (List Char))
  /-- New modes for the rest of the group around. -/
  | modes (m : Modes)
deriving DecidableEq, Repr

/-- A group whose name is read up to its closing bracket, and the text after it. -/
def named? (m : Modes) (text : List Char) : Option (Opening × List Char) :=
  let name := text.takeWhile (· != '>')
  match text.dropWhile (· != '>') with
  | _ :: rest => if isGroupName name then some (.group m (some name), rest) else none
  | [] => none

/-- What an opening parenthesis begins, and the text after it. -/
def group? (m : Modes) (text : List Char) : Option (Opening × List Char) :=
  match text with
  | '?' :: 'P' :: '<' :: rest | '?' :: '<' :: rest => named? m rest
  | '?' :: rest =>
    let letters := rest.takeWhile fun c => c != ':' && c != ')'
    match rest.dropWhile fun c => c != ':' && c != ')' with
    | ':' :: rest => (m.change? letters).map fun m => (.group m none, rest)
    | _ :: rest => if letters.isEmpty then none else (m.change? letters).map (.modes ·, rest)
    | [] => none
  | _ => some (.group m none, text)

/-! ## Classes -/

/-- The names of the classes of ASCII characters. -/
def classNames : List String :=
  ["alnum", "alpha", "ascii", "blank", "cntrl", "digit", "graph", "lower", "print", "punct",
    "space", "upper", "word", "xdigit"]

/-- The text after a class by one of `classNames`, between a bracket with a colon and the like. -/
def namedClass? (text : List Char) : Option (List Char) :=
  match text with
  | ':' :: rest =>
    let rest := match rest with
      | '^' :: rest => rest
      | _ => rest
    let name := rest.takeWhile (· != ':')
    match rest.dropWhile (· != ':') with
    | ':' :: ']' :: rest => if classNames.contains (String.ofList name) then some rest else none
    | _ => none
  | _ => none

/-- The text after the beginning of a class behind its bracket: the sign that negates it, minus
signs, or else a closing bracket that stands for itself. -/
def begin? (m : Modes) (text : List Char) : Option (List Char) :=
  let negated := text.head? = some '^'
  let rest := if negated then text.drop 1 else text
  if negated && !m.wide then none
  else
    match rest with
    | '-' :: _ => some (rest.dropWhile (· == '-'))
    | ']' :: rest => some rest
    | _ => some rest

/-- One item of a class, and the text after it. -/
def item? (m : Modes) (text : List Char) : Option (Atom × List Char) :=
  match text with
  | [] => none
  | '\\' :: rest => escape? m rest
  | c :: rest => some (.char c, rest)

/-- The text after an item of a class, or after a range of characters between two of them. -/
def range? (m : Modes) (text : List Char) : Option (List Char) :=
  match item? m text with
  | none => none
  | some (a, rest) =>
    match rest with
    | '-' :: c :: more =>
      if c = ']' ∨ c = '-' then if a = .place then none else some rest
      else
        match a, item? m (c :: more) with
        | .char lo, some (.char hi, rest) => if lo ≤ hi then some rest else none
        | _, _ => none
    | _ => if a = .place then none else some rest

/-- The text after a class of which `depth` classes inside one another are open. -/
def class? (m : Modes) : Nat → Nat → List Char → Option (List Char)
  | 0, _, _ => none
  | fuel + 1, depth, text =>
    match text with
    | ']' :: rest => if depth ≤ 1 then some rest else class? m fuel (depth - 1) rest
    | '[' :: rest =>
      match namedClass? rest with
      | some rest => class? m fuel depth rest
      | none => (begin? m rest).bind (class? m fuel (depth + 1))
    | '&' :: '&' :: rest | '-' :: '-' :: rest | '~' :: '~' :: rest => class? m fuel depth rest
    | _ => if m.takes then (range? m text).bind (class? m fuel depth) else none

/-! ## Expressions -/

/-- What is known of an expression that has been read up to some character. -/
structure Reader where
  modes : Modes := {}
  /-- The modes around each open group, innermost first. -/
  groups : List Modes := []
  /-- The names of groups so far. -/
  names : List (List Char) := []
  /-- What stands before can be repeated. -/
  repeatable : Bool := false

/-- `r` behind something that can be repeated. -/
def Reader.passed (r : Reader) : Reader := { r with repeatable := true }

/-- `r` behind an opening parenthesis, unless a name is given again. -/
def Reader.opened? (r : Reader) : Opening → Option Reader
  | .modes m => some { r with modes := m, repeatable := false }
  | .group m name =>
    if name.any r.names.contains then none
    else
      some { modes := m, groups := r.modes :: r.groups, names := name.toList ++ r.names }

/-- `r` behind `c` and what belongs to it, and the text after that. -/
def Reader.step? (r : Reader) (c : Char) (rest : List Char) : Option (Reader × List Char) :=
  match c with
  | '(' =>
    match group? r.modes rest with
    | some (o, rest) => (r.opened? o).map (·, rest)
    | none => none
  | ')' =>
    match r.groups with
    | [] => none
    | m :: groups => some ({ r with modes := m, groups }.passed, rest)
  | '|' => some ({ r with repeatable := false }, rest)
  | '?' | '*' | '+' =>
    if r.repeatable then some (r, if rest.head? = some '?' then rest.drop 1 else rest) else none
  | '[' => (begin? r.modes rest).bind fun text =>
    (class? r.modes (text.length + 1) 1 text).map (r.passed, ·)
  | '\x7b' => none
  | '\\' =>
    match escape? r.modes rest with
    | some (.char _, rest) => if r.modes.takes then some (r.passed, rest) else none
    | some (_, rest) => some (r.passed, rest)
    | none => none
  | '.' => if r.modes.wide then some (r.passed, rest) else none
  | '^' | '$' => some (r.passed, rest)
  | _ => if r.modes.takes then some (r.passed, rest) else none

/-- `r` gets to the end of the text, with every group closed. -/
def Reader.finishes : Nat → Reader → List Char → Bool
  | _, r, [] => r.groups.isEmpty
  | 0, _, _ :: _ => false
  | fuel + 1, r, c :: rest =>
    match r.step? c rest with
    | some (r, rest) => r.finishes fuel rest
    | none => false

end Pattern

/-- `text` is a regular expression. -/
def isPattern (text : List Char) : Bool := Pattern.Reader.finishes text.length {} text

end SplitTunnel.Text
