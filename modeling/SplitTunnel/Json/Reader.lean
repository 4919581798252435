import SplitTunnel.Json
import SplitTunnel.Text.Numeral

/-!
# Reading JSON (`SPEC_FULL.md` §10.3)

The reader takes one symbol at a time and keeps the containers that are still open in a list, so a
document may be nested to any depth. A symbol is a character, or `none` for a byte that belongs to
no character; the latter may stand inside a string only, which then spells nothing.

* `StringReader.step`: one symbol of a string, escapes and surrogate pairs included.
* `Builder`: what has been read of the document; `Builder.token` adds a token to it.
* `Reader.step`: one symbol of the document.
* `ofSymbols?`, `parse?`: the whole document, with blanks around it and nothing else.
-/

namespace SplitTunnel.Json

open Text

/-! ## Strings -/

/-- Where a reader is inside a string. -/
inductive StringState where
  /-- Between two characters. -/
  | plain
  /-- After a backslash. -/
  | escape
  /-- Inside a code point of which `count` digits with value `code` have been read. -/
  | code (count code : Nat)
deriving DecidableEq, Repr

/-- What has been read of a string. -/
structure StringReader where
  state : StringState
  /-- The characters so far, last first. -/
  read : List Char
  /-- A first half of a surrogate pair that waits for its second half. -/
  half : Option Nat
  /-- The text so far spells characters. -/
  sound : Bool

namespace StringReader

/-- At the start of a string. -/
def start : StringReader := ⟨.plain, [], none, true⟩

/-- Takes the character `c`; a `half` pair before it spells nothing. -/
def push (r : StringReader) (c : Char) : StringReader :=
  { r with state := .plain, read := c :: r.read, half := none, sound := r.sound && r.half.isNone }

/-- Takes a byte that belongs to no character. -/
def pushStray (r : StringReader) : StringReader := { r with half := none, sound := false }

/-- Takes the code point `n`, written with four digits. -/
def pushCode (r : StringReader) (n : Nat) : StringReader :=
  match r.half with
  | some h =>
    if 0xDC00 ≤ n ∧ n ≤ 0xDFFF then
      { r with
        state := .plain
        read := Char.ofNat (0x10000 + (h - 0xD800) * 0x400 + (n - 0xDC00)) :: r.read
        half := none }
    else { r with state := .plain, half := none, sound := false }
  | none =>
    if 0xD800 ≤ n ∧ n ≤ 0xDBFF then { r with state := .plain, half := some n }
    else if 0xDC00 ≤ n ∧ n ≤ 0xDFFF then { r with state := .plain, sound := false }
    else r.push (Char.ofNat n)

/-- The character that the letter `c` after a backslash stands for. -/
def escaped? (c : Char) : Option Char :=
  match c with
  | '"' => some '"'
  | '\\' => some '\\'
  | '/' => some '/'
  | 'b' => some '\x08'
  | 'f' => some '\x0c'
  | 'n' => some '\n'
  | 'r' => some '\r'
  | 't' => some '\t'
  | _ => none

/-- The string that `r` has read, at its closing quote. -/
def text (r : StringReader) : Option String :=
  if r.sound && r.half.isNone then some (String.ofList r.read.reverse) else none

/-- `r` after one `symbol` that does not close the string. -/
def step (r : StringReader) (symbol : Option Char) : Option StringReader :=
  match r.state, symbol with
  | .plain, none => some r.pushStray
  | .plain, some '\\' => some { r with state := .escape }
  | .plain, some c => if c.toNat < 0x20 then none else some (r.push c)
  | .escape, some 'u' => some { r with state := .code 0 0 }
  | .escape, some c => (escaped? c).map r.push
  | .code count code, some c => do
    let d ← digit? 16 c
    let code := 16 * code + d
    some (if count = 3 then r.pushCode code else { r with state := .code (count + 1) code })
  | _, none => none

end StringReader

/-! ## Documents -/

/-- A token of a document. -/
inductive Token where
  | openArray
  | closeArray
  | openObject
  | closeObject
  | comma
  | colon
  /-- A value that is no container. -/
  | scalar (v : Json)

/-- A container that is still open, with what it holds so far, last first. -/
inductive Frame where
  | array (items : List Json)
  | object (members : List (Option String × Json)) (name : Option String)

/-- What may come next in a document. -/
inductive Place where
  /-- A value. -/
  | value
  /-- A value, or the end of the array that has just been opened. -/
  | valueOrEnd
  /-- A member's name. -/
  | name
  /-- A member's name, or the end of the object that has just been opened. -/
  | nameOrEnd
  /-- The colon after the name `name`. -/
  | colon (name : Option String)
  /-- What follows a value: a comma or the end of the container. -/
  | afterValue (v : Json)

/-- What has been read of a document: the open containers, innermost first, and the place. -/
structure Builder where
  frames : List Frame
  place : Place

namespace Builder

/-- The builder before the first token. -/
def start : Builder := ⟨[], .value⟩

/-- `b` with the token `t`, where the grammar allows it. -/
def token (b : Builder) (t : Token) : Option Builder :=
  match b.place, t, b.frames with
  | .value, .scalar v, fs | .valueOrEnd, .scalar v, fs => some ⟨fs, .afterValue v⟩
  | .value, .openArray, fs | .valueOrEnd, .openArray, fs => some ⟨.array [] :: fs, .valueOrEnd⟩
  | .value, .openObject, fs | .valueOrEnd, .openObject, fs =>
    some ⟨.object [] none :: fs, .nameOrEnd⟩
  | .valueOrEnd, .closeArray, .array items :: fs => some ⟨fs, .afterValue (.array items.reverse)⟩
  | .name, .scalar (.string k), fs | .nameOrEnd, .scalar (.string k), fs => some ⟨fs, .colon k⟩
  | .nameOrEnd, .closeObject, .object members _ :: fs =>
    some ⟨fs, .afterValue (.object members.reverse)⟩
  | .colon k, .colon, .object members _ :: fs => some ⟨.object members k :: fs, .value⟩
  | .afterValue v, .comma, .array items :: fs => some ⟨.array (v :: items) :: fs, .value⟩
  | .afterValue v, .closeArray, .array items :: fs =>
    some ⟨fs, .afterValue (.array (v :: items).reverse)⟩
  | .afterValue v, .comma, .object members k :: fs =>
    some ⟨.object ((k, v) :: members) none :: fs, .name⟩
  | .afterValue v, .closeObject, .object members k :: fs =>
    some ⟨fs, .afterValue (.object ((k, v) :: members).reverse)⟩
  | _, _, _ => none

/-- The document of `b`, if it is complete. -/
def document? (b : Builder) : Option Json :=
  match b.place, b.frames with
  | .afterValue v, [] => some v
  | _, _ => none

end Builder

/-- `text` is a whole number without needless zeros in front. -/
def isWhole (text : List Char) : Bool :=
  isDigits text && (text.length == 1 || text.head? != some '0')

/-- `text` may follow the whole part of a number: a fraction, an exponent, both, or neither. -/
def isTail (text : List Char) : Bool :=
  match text with
  | '.' :: rest => isDigits (rest.takeWhile Char.isDigit) && isScale (rest.dropWhile Char.isDigit)
  | _ => isScale text

/-- `text` is a JSON number. -/
def isNumber (text : List Char) : Bool :=
  let unsigned := match text with
    | '-' :: rest => rest
    | _ => text
  isWhole (unsigned.takeWhile Char.isDigit) && isTail (unsigned.dropWhile Char.isDigit)

/-- The value that `text`, a run of word characters, denotes. -/
def word? (text : List Char) : Option Json :=
  if text = "null".toList then some .null
  else if text = "true".toList then some (.bool true)
  else if text = "false".toList then some (.bool false)
  else if isNumber text then some (.number (String.ofList text))
  else none

/-- `c` is a character of a number or of a named value. -/
def isWordChar (c : Char) : Bool := c.isAlphanum || c == '+' || c == '-' || c == '.'

/-- What a reader is inside of. -/
inductive Scan where
  | between
  /-- A number or a named value, with its characters so far, last first. -/
  | word (read : List Char)
  | string (r : StringReader)

/-- A reader of a document. -/
structure Reader where
  builder : Builder
  scan : Scan

namespace Reader

/-- The reader before the first symbol. -/
def start : Reader := ⟨.start, .between⟩

/-- The reader that has taken `t` and stands between tokens. -/
def token (b : Builder) (t : Token) : Option Reader := (b.token t).map fun b => ⟨b, .between⟩

/-- The reader that has taken `c` between two tokens, or as the first character of one. -/
def begin (b : Builder) (c : Char) : Option Reader :=
  if c = ' ' ∨ c = '\n' ∨ c = '\t' ∨ c = '\r' then some ⟨b, .between⟩
  else if c = '[' then token b .openArray
  else if c = ']' then token b .closeArray
  else if c = '\x7b' then token b .openObject
  else if c = '\x7d' then token b .closeObject
  else if c = ',' then token b .comma
  else if c = ':' then token b .colon
  else if c = '"' then some ⟨b, .string .start⟩
  else if isWordChar c then some ⟨b, .word [c]⟩
  else none

/-- `b` with the number or the named value that `read` spells backwards. -/
def endWord (b : Builder) (read : List Char) : Option Builder :=
  (word? read.reverse).bind fun v => b.token (.scalar v)

/-- `r` after one symbol. -/
def step (r : Reader) (symbol : Option Char) : Option Reader :=
  match r.scan, symbol with
  | .string s, some '"' =>
    if s.state = .plain then token r.builder (.scalar (.string s.text))
    else (s.step symbol).map fun s => { r with scan := .string s }
  | .string s, _ => (s.step symbol).map fun s => { r with scan := .string s }
  | .between, some c => begin r.builder c
  | .word read, some c =>
    if isWordChar c then some { r with scan := .word (c :: read) }
    else (endWord r.builder read).bind fun b => begin b c
  | _, none => none

/-- The document, if the symbols that `r` has taken are one. -/
def document? (r : Reader) : Option Json :=
  match r.scan with
  | .between => r.builder.document?
  | .word read => (endWord r.builder read).bind Builder.document?
  | .string _ => none

end Reader

/-- The document that consists of `symbols`. -/
def ofSymbols? (symbols : List (Option Char)) : Option Json :=
  (symbols.foldlM Reader.step Reader.start).bind Reader.document?

/-- The document that `text` denotes. -/
def parse? (text : String) : Option Json := ofSymbols? (text.toList.map some)

end SplitTunnel.Json
