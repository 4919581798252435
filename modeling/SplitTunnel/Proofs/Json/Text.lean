import SplitTunnel.Json.Printer
import SplitTunnel.Json.Reader
import SplitTunnel.Proofs.Text.Numeral
import Mathlib.Data.List.TakeWhile

/-!
# Documents are read back (`SPEC_FULL.md` §6, the profile record as JSON)

`Json.Reader` is followed through what `Json.render` writes for a document. After a number or a
named value it stands inside the word until it sees what comes next, so a value may end in two ways.

* `Json.Valid`: all numbers of a document are numbers.
* `Json.Reader.Takes`, `Json.Reader.Ends`: what taking a text leads to, and where a value ends.
* `Json.Reader.takes_renderText`, `Json.Reader.takes_word`: strings and words.
* `Json.Reader.takes_items`, `Json.Reader.takes_members`, `Json.Reader.isTaken`: documents, with
  their items and their members.
* `Json.parse?_render`: reading undoes writing.
-/

namespace SplitTunnel.Json

open Text

mutual

/-- All numbers of the document are numbers, as `isNumber` tells. -/
def Valid : Json → Prop
  | .null | .bool _ | .string _ => True
  | .number digits => isNumber digits.toList = true
  | .array items => ValidItems items
  | .object members => ValidMembers members

/-- All numbers of the items are numbers. -/
def ValidItems : List Json → Prop
  | [] => True
  | v :: rest => Valid v ∧ ValidItems rest

/-- All numbers of the members are numbers. -/
def ValidMembers : List (Option String × Json) → Prop
  | [] => True
  | (_, v) :: rest => Valid v ∧ ValidMembers rest

end

theorem validItems_iff {items : List Json} : ValidItems items ↔ ∀ v ∈ items, Valid v := by
  induction items with
  | nil => simp [ValidItems]
  | cons v rest ih => simp [ValidItems, ih]

theorem validMembers_iff {members : List (Option String × Json)} :
    ValidMembers members ↔ ∀ m ∈ members, Valid m.2 := by
  induction members with
  | nil => simp [ValidMembers]
  | cons m rest ih => simp [ValidMembers, ih]

/-! ## Characters of numbers -/

variable {c : Char} {text : List Char}

theorem isWordChar_of_isDigit (h : c.isDigit = true) : isWordChar c = true := by
  simp [isWordChar, Char.isAlphanum, h]

theorem isWordChar_of_isDigits (h : isDigits text = true) (hc : c ∈ text) :
    isWordChar c = true := by
  simp only [isDigits, Bool.and_eq_true, List.all_eq_true] at h
  exact isWordChar_of_isDigit (h.2 c hc)

theorem isWordChar_of_isExponent (h : isExponent text = true) (hc : c ∈ text) :
    isWordChar c = true := by
  unfold isExponent at h
  split at h
  · rcases List.mem_cons.mp hc with rfl | hc
    · rfl
    · exact isWordChar_of_isDigits h hc
  · rcases List.mem_cons.mp hc with rfl | hc
    · rfl
    · exact isWordChar_of_isDigits h hc
  · exact isWordChar_of_isDigits h hc

theorem isWordChar_of_isScale (h : isScale text = true) (hc : c ∈ text) : isWordChar c = true := by
  unfold isScale at h
  split at h
  · cases hc
  · next e rest =>
    simp only [Bool.and_eq_true, Bool.or_eq_true, beq_iff_eq] at h
    rcases List.mem_cons.mp hc with rfl | hc
    · rcases h.1 with rfl | rfl <;> rfl
    · exact isWordChar_of_isExponent h.2 hc

/-- A character `c` of `text` is in the digits at the start or behind them. -/
theorem isWordChar_of_mem (hrest : ∀ c ∈ text.dropWhile Char.isDigit, isWordChar c = true)
    (hc : c ∈ text) : isWordChar c = true := by
  rw [← List.takeWhile_append_dropWhile (p := Char.isDigit) (l := text)] at hc
  rcases List.mem_append.mp hc with hc | hc
  · exact isWordChar_of_isDigit (List.mem_takeWhile_imp hc)
  · exact hrest c hc

theorem isWordChar_of_isTail (h : isTail text = true) (hc : c ∈ text) : isWordChar c = true := by
  unfold isTail at h
  split at h
  · rw [Bool.and_eq_true] at h
    rcases List.mem_cons.mp hc with rfl | hc
    · rfl
    · exact isWordChar_of_mem (fun c => isWordChar_of_isScale h.2) hc
  · exact isWordChar_of_isScale h hc

/-- No character `c` of a number ends a word. -/
theorem isWordChar_of_isNumber (h : isNumber text = true) (hc : c ∈ text) :
    isWordChar c = true := by
  unfold isNumber at h
  rw [Bool.and_eq_true] at h
  have htail {s : List Char} (hs : isTail (s.dropWhile Char.isDigit) = true) (hc : c ∈ s) :
      isWordChar c = true := isWordChar_of_mem (fun c => isWordChar_of_isTail hs) hc
  split at h
  · rcases List.mem_cons.mp hc with rfl | hc
    · rfl
    · exact htail h.2 hc
  · exact htail h.2 hc

/-- `Nat.toDigits` writes a number, as `isNumber` tells. -/
theorem isNumber_toDigits (n : Nat) : isNumber (Nat.toDigits 10 n) = true := by
  have hdigit (c : Char) (hc : c ∈ Nat.toDigits 10 n) : c.isDigit = true :=
    Nat.isDigit_of_mem_toDigits (by decide) (by decide) hc
  have hdigits : isDigits (Nat.toDigits 10 n) = true := by
    simpa [isDigits] using hdigit
  have hwhole : isWhole (Nat.toDigits 10 n) = true := by
    by_cases hzero : n = 0
    · subst hzero
      decide
    · have hhead : (Nat.toDigits 10 n).head? ≠ some '0' := fun h =>
        hzero (head?_toDigits (by decide) (by decide) h)
      simp [isWhole, hdigits, hhead]
  unfold isNumber
  split
  · next rest heq => cases hdigit '-' (heq ▸ List.mem_cons_self ..)
  · simp only [List.takeWhile_eq_self_iff.mpr hdigit, List.dropWhile_eq_nil_iff.mpr hdigit, hwhole]
    rfl

namespace Reader

variable {b b' : Builder} {r r' r'' : Reader} {s t read : List Char}

/-- Taking `text` leads from `r` to `r'`. -/
def Takes (r : Reader) (text : List Char) (r' : Reader) : Prop :=
  (text.map some).foldlM step r = some r'

theorem Takes.nil : r.Takes [] r := rfl

theorem Takes.append (h : r.Takes s r') (h' : r'.Takes t r'') : r.Takes (s ++ t) r'' := by
  unfold Takes at h ⊢
  rw [List.map_append, List.foldlM_append, h]
  exact h'

theorem Takes.cons (h : r.step (some c) = some r') (h' : r'.Takes t r'') :
    r.Takes (c :: t) r'' := by
  unfold Takes
  rw [List.map_cons, List.foldlM_cons, h]
  exact h'

theorem Takes.single (h : r.step (some c) = some r') : r.Takes [c] r' := .cons h .nil

/-! ## Strings -/

/-- The reader inside a string, of which the characters `read` have been read, last first. -/
def inString (b : Builder) (read : List Char) : Reader := ⟨b, .string ⟨.plain, read, none, true⟩⟩

theorem step_string {q : StringReader} (h : c ≠ '"' ∨ q.state ≠ .plain) :
    step ⟨b, .string q⟩ (some c) = (q.step (some c)).map fun q => ⟨b, .string q⟩ := by
  unfold step
  split
  · next hscan hc =>
    cases hscan
    cases hc
    rw [if_neg (h.resolve_left fun hne => hne rfl)]
  · next hscan _ =>
    cases hscan
    rfl
  all_goals
    next hscan _ => cases hscan

/-- A digit `d` of a code point that is not the last one. -/
theorem step_digit (b : Builder) (read : List Char) (count code : Nat) {d : Nat} (hd : d < 16)
    (hcount : count ≠ 3) :
    step ⟨b, .string ⟨.code count code, read, none, true⟩⟩ (some (Nat.digitChar d)) =
      some ⟨b, .string ⟨.code (count + 1) (16 * code + d), read, none, true⟩⟩ := by
  rw [step_string (.inr (by simp))]
  simp [StringReader.step, digit?_digitChar (Nat.le_refl 16) hd, hcount]

/-- The last digit `d` of a code point that is no half of a pair. -/
theorem step_lastDigit (b : Builder) (read : List Char) {code d : Nat} (hd : d < 16)
    (hlt : 16 * code + d < 0xD800) :
    step ⟨b, .string ⟨.code 3 code, read, none, true⟩⟩ (some (Nat.digitChar d)) =
      some (inString b (Char.ofNat (16 * code + d) :: read)) := by
  have hhigh : ¬ (0xD800 ≤ 16 * code + d ∧ 16 * code + d ≤ 0xDBFF) := by omega
  have hlow : ¬ (0xDC00 ≤ 16 * code + d ∧ 16 * code + d ≤ 0xDFFF) := by omega
  rw [step_string (.inr (by simp))]
  simp only [StringReader.step, digit?_digitChar (Nat.le_refl 16) hd, Option.bind_eq_bind,
    Option.bind_some, if_true, StringReader.pushCode, if_neg hhigh, if_neg hlow]
  rfl

/-- A control character `c` is written as its code point. -/
theorem takes_control (hc : c.toNat < 32) : (inString b read).Takes
    ['\\', 'u', '0', '0', Nat.digitChar (c.toNat / 16), Nat.digitChar (c.toNat % 16)]
    (inString b (c :: read)) := by
  have hcode : (inString b read).Takes ['\\', 'u', '0', '0']
      ⟨b, .string ⟨.code 2 0, read, none, true⟩⟩ := rfl
  have hlast := step_lastDigit b read (Nat.mod_lt c.toNat (by decide : 0 < 16))
    (by omega : 16 * (c.toNat / 16) + c.toNat % 16 < 0xD800)
  rw [Nat.div_add_mod, Char.ofNat_toNat] at hlast
  have hfirst := step_digit b read 2 0 (by omega : c.toNat / 16 < 16) (by decide)
  rw [Nat.mul_zero, Nat.zero_add] at hfirst
  exact hcode.append (.cons hfirst (.single hlast))

theorem step_plain (hquote : c ≠ '"') (hslash : c ≠ '\\') (hge : ¬ c.toNat < 32) :
    (inString b read).step (some c) = some (inString b (c :: read)) := by
  rw [inString, step_string (.inl hquote)]
  simp [StringReader.step, StringReader.push, hge, inString]

/-- A character `c` inside a string, escaped or not. -/
theorem takes_escape (b : Builder) (read : List Char) (c : Char) :
    (inString b read).Takes (escape c) (inString b (c :: read)) := by
  unfold escape
  split
  · next h => subst h; rfl
  split
  · next h => subst h; rfl
  split
  · next h => subst h; rfl
  split
  · next h => subst h; rfl
  split
  · next h => subst h; rfl
  split
  · next h => subst h; rfl
  split
  · next h => subst h; rfl
  split
  · next hlt =>
    have hdigits : hexadecimal c.toNat = [Nat.digitChar (c.toNat % 16)] := by
      rw [hexadecimal, Nat.toDigits_of_lt_base hlt, Nat.mod_eq_of_lt hlt]
    have hcontrol := @takes_control c b read (by omega)
    rw [Nat.div_eq_of_lt hlt] at hcontrol
    rw [hdigits]
    exact hcontrol
  split
  · next hge hlt =>
    have hdigits : hexadecimal c.toNat =
        [Nat.digitChar (c.toNat / 16), Nat.digitChar (c.toNat % 16)] := by
      rw [hexadecimal, Nat.toDigits_eq_if (by decide), if_neg hge,
        Nat.toDigits_of_lt_base (by omega)]
      rfl
    rw [hdigits]
    exact takes_control hlt
  · next hquote hslash _ _ _ _ _ _ hge =>
    exact .single (step_plain hquote hslash hge)

theorem takes_escapes (b : Builder) (s read : List Char) :
    (inString b read).Takes (s.flatMap escape) (inString b (s.reverse ++ read)) := by
  induction s generalizing read with
  | nil => exact .nil
  | cons c rest ih =>
    rw [List.flatMap_cons, List.reverse_cons, List.append_assoc, List.singleton_append]
    exact (takes_escape b read c).append (ih _)

/-- What `renderText` writes is taken as one token. -/
theorem takes_renderText {text : Option String}
    (h : b.token (.scalar (.string text)) = some b') :
    Takes ⟨b, .between⟩ (renderText text) ⟨b', .between⟩ := by
  have htoken : token b (.scalar (.string text)) = some ⟨b', .between⟩ := by
    rw [token, h]
    rfl
  cases text with
  | none =>
    have hopen : Takes ⟨b, .between⟩ ['"', '\\', 'u', 'd', '8', '0', '0']
        ⟨b, .string ⟨.plain, [], some 0xD800, true⟩⟩ := rfl
    exact hopen.append (.single htoken)
  | some s =>
    have hopen : Takes ⟨b, .between⟩ ['"'] (inString b []) := rfl
    have hclose : (inString b (s.toList.reverse ++ [])).step (some '"') = some ⟨b', .between⟩ := by
      rw [← htoken]
      simp [inString, step, StringReader.text]
    exact (hopen.append (takes_escapes b s.toList [])).append (.single hclose)

/-! ## Words -/

theorem begin_of_isWordChar (b : Builder) (h : isWordChar c = true) :
    begin b c = some ⟨b, .word [c]⟩ := by
  have hne (d : Char) (hd : isWordChar d = false) : c ≠ d := by
    rintro rfl
    rw [h] at hd
    cases hd
  simp [begin, h, hne ' ' rfl, hne '\n' rfl, hne '\t' rfl, hne '\r' rfl, hne '[' rfl, hne ']' rfl,
    hne '\x7b' rfl, hne '\x7d' rfl, hne ',' rfl, hne ':' rfl, hne '"' rfl]

theorem takes_wordChars (b : Builder) (read : List Char) (h : ∀ c ∈ s, isWordChar c = true) :
    Takes ⟨b, .word read⟩ s ⟨b, .word (s.reverse ++ read)⟩ := by
  induction s generalizing read with
  | nil => exact .nil
  | cons c rest ih =>
    rw [List.reverse_cons, List.append_assoc, List.singleton_append]
    refine .cons ?_ (ih (c :: read) fun d hd => h d (List.mem_cons_of_mem c hd))
    simp [step, h c (List.mem_cons_self ..)]

/-- A value ends in `r` and leaves `b`: `r` is between tokens, or in a word that ends where the
value does. -/
def Ends (r : Reader) (b : Builder) : Prop :=
  r = ⟨b, .between⟩ ∨ ∃ b₀ read, r = ⟨b₀, .word read⟩ ∧ endWord b₀ read = some b

theorem Ends.step (h : Ends r b) (hc : isWordChar c = false) : r.step (some c) = begin b c := by
  rcases h with rfl | ⟨b₀, read, rfl, hend⟩
  · rfl
  · simp [Reader.step, hc, hend]

theorem Ends.document? (h : Ends r b) : r.document? = b.document? := by
  rcases h with rfl | ⟨b₀, read, rfl, hend⟩
  · rfl
  · simp [Reader.document?, hend]

/-- A word `s` is taken as one token. -/
theorem takes_word {v : Json} (hne : s ≠ []) (hs : ∀ c ∈ s, isWordChar c = true)
    (hv : word? s = some v) (h : b.token (.scalar v) = some b') :
    ∃ r, Takes ⟨b, .between⟩ s r ∧ Ends r b' := by
  obtain ⟨c, rest, rfl⟩ := List.exists_cons_of_ne_nil hne
  refine ⟨_, .cons (begin_of_isWordChar b (hs c (List.mem_cons_self ..)))
    (takes_wordChars b [c] fun d hd => hs d (List.mem_cons_of_mem c hd)),
    .inr ⟨b, _, rfl, ?_⟩⟩
  simp [endWord, hv, h]

theorem word?_of_isNumber {digits : String} (h : isNumber digits.toList = true) :
    word? digits.toList = some (.number digits) := by
  have hne (w : List Char) (hw : isNumber w = false) : digits.toList ≠ w := by
    intro heq
    rw [heq, hw] at h
    cases h
  rw [word?, if_neg (hne _ (by decide)), if_neg (hne _ (by decide)), if_neg (hne _ (by decide)),
    if_pos h, String.ofList_toList]

/-! ## Documents -/

/-- A value may come next in `b`. -/
def TakesValue (b : Builder) : Prop := b.place = .value ∨ b.place = .valueOrEnd

theorem TakesValue.scalar (h : TakesValue b) (v : Json) :
    b.token (.scalar v) = some ⟨b.frames, .afterValue v⟩ := by
  obtain ⟨frames, place⟩ := b
  rcases h with h | h <;> cases h <;> rfl

theorem TakesValue.openArray (h : TakesValue b) :
    begin b '[' = some ⟨⟨.array [] :: b.frames, .valueOrEnd⟩, .between⟩ := by
  obtain ⟨frames, place⟩ := b
  rcases h with h | h <;> cases h <;> rfl

theorem TakesValue.openObject (h : TakesValue b) :
    begin b '\x7b' = some ⟨⟨.object [] none :: b.frames, .nameOrEnd⟩, .between⟩ := by
  obtain ⟨frames, place⟩ := b
  rcases h with h | h <;> cases h <;> rfl

/-- A member's name may come next at the place `p`. -/
def TakesName (p : Place) : Prop := p = .name ∨ p = .nameOrEnd

theorem TakesName.token {p : Place} (h : TakesName p) (fs : List Frame) (k : Option String) :
    Builder.token ⟨fs, p⟩ (.scalar (.string k)) = some ⟨fs, .colon k⟩ := by
  rcases h with rfl | rfl <;> rfl

/-- What is written for `v` is taken as `v`, wherever a value may come. -/
def IsTaken (v : Json) : Prop :=
  ∀ b, TakesValue b → ∃ r, Takes ⟨b, .between⟩ (render v) r ∧ Ends r ⟨b.frames, .afterValue v⟩

/-- The items `v :: rest` of an array are taken, up to the end of the array. -/
theorem takes_items (v : Json) (rest : List Json) (h : ∀ w ∈ v :: rest, IsTaken w)
    (items : List Json) (fs : List Frame) {place : Place}
    (hp : TakesValue ⟨.array items :: fs, place⟩) :
    Takes ⟨⟨.array items :: fs, place⟩, .between⟩
      ([','].intercalate (renderItems (v :: rest)) ++ [']'])
      ⟨⟨fs, .afterValue (.array (items.reverse ++ v :: rest))⟩, .between⟩ := by
  induction rest generalizing v items place with
  | nil =>
    obtain ⟨r, htakes, hends⟩ := h v (List.mem_cons_self ..) _ hp
    rw [renderItems, renderItems, List.intercalate_singleton]
    refine htakes.append (.single ?_)
    rw [hends.step rfl, ← List.reverse_cons]
    rfl
  | cons w rest ih =>
    obtain ⟨r, htakes, hends⟩ := h v (List.mem_cons_self ..) _ hp
    have hrest := ih w (fun x hx => h x (List.mem_cons_of_mem v hx)) (v :: items) (.inl rfl)
    rw [List.reverse_cons, List.append_assoc, List.singleton_append] at hrest
    rw [renderItems, renderItems, List.intercalate_cons_cons, List.append_assoc, List.append_assoc]
    refine htakes.append (.cons ?_ hrest)
    rw [hends.step rfl]
    rfl

/-- The members `m :: rest` of an object are taken, up to the end of the object. -/
theorem takes_members (m : Option String × Json) (rest : List (Option String × Json))
    (h : ∀ n ∈ m :: rest, IsTaken n.2) (members : List (Option String × Json)) (fs : List Frame)
    {place : Place} (hp : TakesName place) :
    Takes ⟨⟨.object members none :: fs, place⟩, .between⟩
      ([','].intercalate (renderMembers (m :: rest)) ++ ['\x7d'])
      ⟨⟨fs, .afterValue (.object (members.reverse ++ m :: rest))⟩, .between⟩ := by
  induction rest generalizing m members place with
  | nil =>
    obtain ⟨r, htakes, hends⟩ :=
      h m (List.mem_cons_self ..) ⟨.object members m.1 :: fs, .value⟩ (.inl rfl)
    have hname := takes_renderText (hp.token (.object members none :: fs) m.1)
    rw [renderMembers, renderMembers, List.intercalate_singleton]
    refine (hname.append (.cons rfl htakes)).append (.single ?_)
    rw [hends.step rfl, ← List.reverse_cons]
    rfl
  | cons n rest ih =>
    obtain ⟨r, htakes, hends⟩ :=
      h m (List.mem_cons_self ..) ⟨.object members m.1 :: fs, .value⟩ (.inl rfl)
    have hname := takes_renderText (hp.token (.object members none :: fs) m.1)
    have hrest := ih n (fun x hx => h x (List.mem_cons_of_mem m hx)) (m :: members) (.inl rfl)
    rw [List.reverse_cons, List.append_assoc, List.singleton_append] at hrest
    rw [renderMembers, renderMembers, List.intercalate_cons_cons, List.append_assoc,
      List.append_assoc]
    refine (hname.append (.cons rfl htakes)).append (.cons ?_ hrest)
    rw [hends.step rfl]
    rfl

theorem isTaken_of_word {v : Json} (hne : v.render ≠ [])
    (hs : ∀ c ∈ v.render, isWordChar c = true) (hv : word? v.render = some v) : IsTaken v :=
  fun _ hb => takes_word hne hs hv (hb.scalar v)

/-- What is written for a valid `v` is taken as `v`. -/
theorem isTaken (v : Json) (hv : v.Valid) : IsTaken v := by
  match v with
  | .null => exact isTaken_of_word (by decide) (List.all_eq_true.mp rfl) rfl
  | .bool true => exact isTaken_of_word (by decide) (List.all_eq_true.mp rfl) rfl
  | .bool false => exact isTaken_of_word (by decide) (List.all_eq_true.mp rfl) rfl
  | .number digits =>
    refine isTaken_of_word ?_ (fun c => isWordChar_of_isNumber hv) (word?_of_isNumber hv)
    intro hnil
    have hempty : isNumber [] = true := hnil ▸ hv
    cases hempty
  | .string text => exact fun b hb => ⟨_, takes_renderText (hb.scalar (.string text)), .inl rfl⟩
  | .array [] => exact fun b hb => ⟨_, .cons hb.openArray (.single rfl), .inl rfl⟩
  | .array (v :: rest) =>
    intro b hb
    have hall (w : Json) (hw : w ∈ v :: rest) : IsTaken w := isTaken w (validItems_iff.mp hv w hw)
    exact ⟨_, .cons hb.openArray (takes_items v rest hall [] b.frames (.inr rfl)), .inl rfl⟩
  | .object [] => exact fun b hb => ⟨_, .cons hb.openObject (.single rfl), .inl rfl⟩
  | .object (m :: rest) =>
    intro b hb
    have hall (n : Option String × Json) (hn : n ∈ m :: rest) : IsTaken n.2 :=
      isTaken n.2 (validMembers_iff.mp hv n hn)
    exact ⟨_, .cons hb.openObject (takes_members m rest hall [] b.frames (.inr rfl)), .inl rfl⟩
termination_by sizeOf v
decreasing_by
  · have := List.sizeOf_lt_of_mem hw
    simp only [Json.array.sizeOf_spec]
    omega
  · have hlt := List.sizeOf_lt_of_mem hn
    have hsnd : sizeOf n.2 < sizeOf n := by
      obtain ⟨k, w⟩ := n
      simp only [Prod.mk.sizeOf_spec]
      omega
    simp only [Json.object.sizeOf_spec]
    omega

end Reader

/-- `parse?` undoes `render` for every valid `v`. -/
theorem parse?_render {v : Json} (hv : v.Valid) : parse? (String.ofList v.render) = some v := by
  obtain ⟨r, htakes, hends⟩ := Reader.isTaken v hv .start (.inl rfl)
  rw [Reader.Takes] at htakes
  rw [parse?, ofSymbols?, String.toList_ofList, Reader.start, htakes, Option.bind_some,
    hends.document?]
  rfl

end SplitTunnel.Json
