import SplitTunnel.Proofs.Net.Canonical

/-!
# Which texts denote a set (`SPEC_FULL.md` §4.1, parsing)

* `Literal`, `Literal.Spells`, `Literal.Denotes`: what an item of a set's text can be, how it is
  written, and which addresses it stands for.
* `Literal.Fault`: what is wrong with any other item.
* `AddressSet.Item.ofChars_of_spells`, `AddressSet.Item.ofChars_of_fault`: reading takes the items
  that are written so, and finds what is wrong with the others.
* `AddressSet.exists_addItems_eq_ok_iff`, `AddressSet.addItems_eq_error_iff`: so does reading item
  after item.
* `AddressSet.parse_grammar`: which texts are read, as what, and what is wrong with the others.
-/

namespace SplitTunnel.Net

open Text

/-! ## Items -/

/-- What an item of a set's text can be: an address, a `block` or a span. -/
inductive Literal where
  | host (a : Address)
  /-- The addresses that share their first `n` bits with `a`. -/
  | block (a : Address) (n : Nat)
  | between (lo hi : Address)

namespace Literal

/-- `Spells item l`: `item` is written as `l`. The length of a block is at most that of its address,
and a span has addresses of one family in order. -/
inductive Spells : List Char → Literal → Prop
  | host {text : List Char} {a : Address} (h : Address.Spells text a) : Spells text (.host a)
  | block {address length : List Char} {a : Address} {n : Nat} (h : Address.Spells address a)
    (hlength : IsUnsigned 10 length n) (hle : n ≤ a.family.width) :
    Spells (address ++ '/' :: length) (.block a n)
  | between {start stop : List Char} {lo hi : Address} (hlo : Address.Spells start lo)
    (hhi : Address.Spells stop hi) (hfamily : lo.family = hi.family) (hle : lo.value ≤ hi.value) :
    Spells (start ++ '-' :: stop) (.between lo hi)

/-- The literal stands for the address. -/
def Denotes : Literal → Address → Prop
  | host a, x => x = a
  | block a n, x => x.family = a.family ∧
      x.value / 2 ^ (a.family.width - n) = a.value / 2 ^ (a.family.width - n)
  | between lo hi, x => x.family = lo.family ∧ lo.value ≤ x.value ∧ x.value ≤ hi.value

/-- `Fault item e`: `e` is what is wrong with `item`. One with a dash is taken for a span and one
with a slash for a block, each cut at the first; of several faults the first in this order counts:
an address, and then the length, or that the families differ, or the order. -/
inductive Fault : List Char → LiteralError → Prop
  | host {item : List Char} (hdash : '-' ∉ item) (hslash : '/' ∉ item)
    (h : ∀ a, ¬ Address.Spells item a) : Fault item (.invalidAddress item)
  | base {item address length : List Char} (hitem : item = address ++ '/' :: length)
    (hdash : '-' ∉ item) (hslash : '/' ∉ address) (h : ∀ a, ¬ Address.Spells address a) :
    Fault item (.invalidAddress item)
  | length {item address length : List Char} {a : Address} (hitem : item = address ++ '/' :: length)
    (hdash : '-' ∉ item) (h : Address.Spells address a)
    (hlength : ∀ n, IsUnsigned 10 length n → a.family.width < n) : Fault item (.invalidPrefix item)
  | start {item start stop : List Char} (hitem : item = start ++ '-' :: stop) (hdash : '-' ∉ start)
    (h : ∀ a, ¬ Address.Spells start a) : Fault item (.invalidAddress item)
  | stop {item start stop : List Char} {lo : Address} (hitem : item = start ++ '-' :: stop)
    (hlo : Address.Spells start lo) (h : ∀ a, ¬ Address.Spells stop a) :
    Fault item (.invalidAddress item)
  | families {item start stop : List Char} {lo hi : Address} (hitem : item = start ++ '-' :: stop)
    (hlo : Address.Spells start lo) (hhi : Address.Spells stop hi) (h : lo.family ≠ hi.family) :
    Fault item (.mixedFamilies item)
  | order {item start stop : List Char} {lo hi : Address} (hitem : item = start ++ '-' :: stop)
    (hlo : Address.Spells start lo) (hhi : Address.Spells stop hi)
    (hfamily : lo.family = hi.family) (h : hi.value < lo.value) : Fault item (.reversed item)

end Literal

namespace Address

variable {text : List Char} {a : Address}

theorem dash_notMem (h : Spells text a) : '-' ∉ text :=
  IsMark.notMem_of_spells (by decide) h

theorem slash_notMem (h : Spells text a) : '/' ∉ text :=
  IsMark.notMem_of_spells (by decide) h

theorem ofChars?_eq_none (h : ∀ a, ¬ Spells text a) : ofChars? text = none := by
  cases ha : ofChars? text with
  | none => rfl
  | some a => exact absurd (ofChars?_eq_some_iff.mp ha) (h a)

end Address

theorem dash_notMem_of_isUnsigned {text : List Char} {n : Nat} (h : IsUnsigned 10 text n) :
    '-' ∉ text := by
  cases h with
  | plain h => exact notMem_of_natural? (natural?_eq_some_iff_isNumeral.mpr h) (by decide)
  | plus h =>
    rw [List.mem_cons, not_or]
    exact ⟨by decide, notMem_of_natural? (natural?_eq_some_iff_isNumeral.mpr h) (by decide)⟩

namespace Block

variable {a x : Address} {n : Nat} {b : Block}

/-- The addresses of the block `b` are those that share their first `n` bits with `a`. -/
theorem mem_of?_iff (h : of? a n = some b) : x ∈ b ↔ x.family = a.family ∧
    x.value / 2 ^ (a.family.width - n) = a.value / 2 ^ (a.family.width - n) := by
  unfold of? at h
  split at h
  · cases h
    have hpos := Nat.two_pow_pos (a.family.width - n)
    rw [mem_iff_bounds]
    refine and_congr_right fun _ => ?_
    show a.value / 2 ^ (a.family.width - n) * 2 ^ (a.family.width - n) ≤ x.value ∧
      x.value < a.value / 2 ^ (a.family.width - n) * 2 ^ (a.family.width - n) +
        2 ^ (a.family.width - n) ↔ _
    rw [Nat.div_eq_iff hpos]
    omega
  · cases h

theorem mem_host_iff : x ∈ host a ↔ x = a := by
  rw [mem_iff_bounds]
  have hbits : (host a).hostBits = 0 := Nat.sub_self _
  rw [hbits]
  constructor
  · rintro ⟨hfamily, hlo, hhi⟩
    exact Address.ext hfamily (Nat.le_antisymm (Nat.le_of_lt_succ hhi) hlo)
  · rintro rfl
    exact ⟨rfl, Nat.le_refl _, Nat.lt_succ_self _⟩

/-- `length` is read as a number up to 255, but no address has as many bits. -/
theorem length_bind_eq_some_iff {length : List Char} :
    (unsigned? 10 255 length).bind (of? a) = some b ↔
      ∃ n, IsUnsigned 10 length n ∧ n ≤ a.family.width ∧ of? a n = some b := by
  have hwidth : a.family.width ≤ 255 := by cases a.family <;> decide
  constructor
  · intro h
    obtain ⟨n, hn, hb⟩ := Option.bind_eq_some_iff.mp h
    have hle : n ≤ a.family.width := by
      unfold of? at hb
      split at hb
      · assumption
      · cases hb
    exact ⟨n, (unsigned?_eq_some_iff.mp hn).1, hle, hb⟩
  · rintro ⟨n, hn, hle, hb⟩
    rw [unsigned?_eq_some_iff.mpr ⟨hn, Nat.le_trans hle hwidth⟩]
    exact hb

theorem length_bind_eq_none {length : List Char}
    (h : ∀ n, IsUnsigned 10 length n → a.family.width < n) :
    (unsigned? 10 255 length).bind (of? a) = none := by
  cases hb : (unsigned? 10 255 length).bind (of? a) with
  | none => rfl
  | some b =>
    obtain ⟨n, hn, hle, -⟩ := length_bind_eq_some_iff.mp hb
    exact absurd hle (Nat.not_le_of_lt (h n hn))

end Block

namespace AddressSet

open Literal

variable {item text : List Char} {items : List (List Char)} {l : Literal} {e : LiteralError}
  {s t : AddressSet} {a : Address}

/-! ## Reading an item -/

/-- `Item.ofChars` reads an item that is written as `l`, with the addresses that `l` stands for. -/
theorem Item.ofChars_of_spells (h : Spells item l) :
    ∃ i, Item.ofChars item = .ok i ∧ ∀ a, a.family = i.family ∧ a.value ∈ i.span ↔ l.Denotes a := by
  cases h with
  | @host text a h =>
    have hcut : cut '-' item = none := cut_eq_none_iff.mpr (Address.dash_notMem h)
    have hslash : cut '/' item = none := cut_eq_none_iff.mpr (Address.slash_notMem h)
    refine ⟨⟨_, (Block.host a).span⟩, ?_, fun x => Block.mem_host_iff⟩
    simp only [Item.ofChars, hcut, Block.ofChars, hslash, Address.ofChars?_eq_some_iff.mpr h]
    rfl
  | @block address length a n h hlength hle =>
    have hdash : '-' ∉ address ++ '/' :: length := by
      rw [List.mem_append, List.mem_cons, not_or, not_or]
      exact ⟨Address.dash_notMem h, by decide, dash_notMem_of_isUnsigned hlength⟩
    have hcut := cut_eq_none_iff.mpr hdash
    have hslash := cut_eq_some_iff.mpr
      (⟨rfl, Address.slash_notMem h⟩ : address ++ '/' :: length = _ ∧ _)
    obtain ⟨b, hb⟩ : ∃ b, Block.of? a n = some b := ⟨_, dif_pos hle⟩
    have hbind := Block.length_bind_eq_some_iff.mpr ⟨n, hlength, hle, hb⟩
    refine ⟨⟨_, b.span⟩, ?_, fun x => Block.mem_of?_iff hb⟩
    simp only [Item.ofChars, hcut, Block.ofChars, hslash, Address.ofChars?_eq_some_iff.mpr h, hbind]
    rfl
  | @between start stop lo hi hlo hhi hfamily hle =>
    have hcut := cut_eq_some_iff.mpr
      (⟨rfl, Address.dash_notMem hlo⟩ : start ++ '-' :: stop = _ ∧ _)
    have hspan : lo.value ≤ hi.value ∧ hi.value < lo.family.size := ⟨hle, hfamily ▸ hi.value_lt⟩
    refine ⟨⟨lo.family, lo.value, hi.value, hspan.1, hspan.2⟩, ?_, fun x => Iff.rfl⟩
    simp only [Item.ofChars, hcut, Address.ofChars?_eq_some_iff.mpr hlo,
      Address.ofChars?_eq_some_iff.mpr hhi, Item.between, if_pos hfamily, Span.of?, dif_pos hspan]

/-- `Item.ofChars` finds the fault `e` of an item. -/
theorem Item.ofChars_of_fault (h : Fault item e) : Item.ofChars item = .error e := by
  -- Each fault says how far the reader gets: what stands before it can be read.
  cases h with
  | host hdash hslash h =>
    simp only [Item.ofChars, cut_eq_none_iff.mpr hdash, Block.ofChars, cut_eq_none_iff.mpr hslash,
      Address.ofChars?_eq_none h]
    rfl
  | base hitem hdash hslash h =>
    simp only [Item.ofChars, cut_eq_none_iff.mpr hdash, Block.ofChars,
      cut_eq_some_iff.mpr ⟨hitem, hslash⟩, Address.ofChars?_eq_none h]
    rfl
  | length hitem hdash h hlength =>
    simp only [Item.ofChars, cut_eq_none_iff.mpr hdash, Block.ofChars,
      cut_eq_some_iff.mpr ⟨hitem, Address.slash_notMem h⟩, Address.ofChars?_eq_some_iff.mpr h,
      Block.length_bind_eq_none hlength]
    rfl
  | start hitem hdash h =>
    simp only [Item.ofChars, cut_eq_some_iff.mpr ⟨hitem, hdash⟩, Address.ofChars?_eq_none h]
  | stop hitem hlo h =>
    simp only [Item.ofChars, cut_eq_some_iff.mpr ⟨hitem, Address.dash_notMem hlo⟩,
      Address.ofChars?_eq_some_iff.mpr hlo, Address.ofChars?_eq_none h]
  | families hitem hlo hhi h =>
    simp only [Item.ofChars, cut_eq_some_iff.mpr ⟨hitem, Address.dash_notMem hlo⟩,
      Address.ofChars?_eq_some_iff.mpr hlo, Address.ofChars?_eq_some_iff.mpr hhi, Item.between,
      if_neg h]
  | @order start stop lo hi hitem hlo hhi hfamily h =>
    have hspan : Span.of? lo.family lo.value hi.value = none :=
      dif_neg fun hspan => Nat.not_le_of_lt h hspan.1
    simp only [Item.ofChars, cut_eq_some_iff.mpr ⟨hitem, Address.dash_notMem hlo⟩,
      Address.ofChars?_eq_some_iff.mpr hlo, Address.ofChars?_eq_some_iff.mpr hhi, Item.between,
      if_pos hfamily, hspan]

theorem spells_or_fault_of_dash {start stop : List Char} (hitem : item = start ++ '-' :: stop)
    (hdash : '-' ∉ start) : (∃ l, Spells item l) ∨ ∃ e, Fault item e := by
  by_cases hstart : ∃ lo, Address.Spells start lo
  case neg => exact .inr ⟨_, .start hitem hdash (not_exists.mp hstart)⟩
  by_cases hstop : ∃ hi, Address.Spells stop hi
  case neg => exact .inr ⟨_, .stop hitem hstart.choose_spec (not_exists.mp hstop)⟩
  obtain ⟨lo, hlo⟩ := hstart
  obtain ⟨hi, hhi⟩ := hstop
  by_cases hfamily : lo.family = hi.family
  case neg => exact .inr ⟨_, .families hitem hlo hhi hfamily⟩
  rcases Nat.lt_or_ge hi.value lo.value with hlt | hle
  · exact .inr ⟨_, .order hitem hlo hhi hfamily hlt⟩
  · exact .inl ⟨.between lo hi, hitem ▸ Spells.between hlo hhi hfamily hle⟩

theorem spells_or_fault_of_slash {address length : List Char}
    (hitem : item = address ++ '/' :: length) (hdash : '-' ∉ item) (hslash : '/' ∉ address) :
    (∃ l, Spells item l) ∨ ∃ e, Fault item e := by
  by_cases haddress : ∃ a, Address.Spells address a
  case neg => exact .inr ⟨_, .base hitem hdash hslash (not_exists.mp haddress)⟩
  obtain ⟨a, ha⟩ := haddress
  by_cases hlength : ∃ n, IsUnsigned 10 length n ∧ n ≤ a.family.width
  · obtain ⟨n, hn, hle⟩ := hlength
    exact .inl ⟨.block a n, hitem ▸ Spells.block ha hn hle⟩
  · refine .inr ⟨_, .length hitem hdash ha fun n hn => ?_⟩
    exact Nat.lt_of_not_le fun hle => hlength ⟨n, hn, hle⟩

/-- `item` is written as one of the literals, or has a fault. -/
theorem spells_or_fault (item : List Char) : (∃ l, Spells item l) ∨ ∃ e, Fault item e := by
  cases hdash : cut '-' item with
  | some parts =>
    obtain ⟨hitem, hstart⟩ := cut_eq_some_iff.mp hdash
    exact spells_or_fault_of_dash hitem hstart
  | none =>
    have hdash := cut_eq_none_iff.mp hdash
    cases hslash : cut '/' item with
    | some parts =>
      obtain ⟨hitem, haddress⟩ := cut_eq_some_iff.mp hslash
      exact spells_or_fault_of_slash hitem hdash haddress
    | none =>
      by_cases haddress : ∃ a, Address.Spells item a
      · exact .inl ⟨_, .host haddress.choose_spec⟩
      · exact .inr ⟨_, .host hdash (cut_eq_none_iff.mp hslash) (not_exists.mp haddress)⟩

/-! ## Reading item after item -/

theorem Item.ofChars_eq_error_iff : Item.ofChars item = .error e ↔ Fault item e := by
  constructor
  · intro h
    rcases spells_or_fault item with ⟨l, hl⟩ | ⟨e', he⟩
    · obtain ⟨i, hi, -⟩ := Item.ofChars_of_spells hl
      cases hi.symm.trans h
    · cases (Item.ofChars_of_fault he).symm.trans h
      exact he
  · exact Item.ofChars_of_fault

theorem Item.exists_ofChars_eq_ok_iff : (∃ i, Item.ofChars item = .ok i) ↔ ∃ l, Spells item l := by
  constructor
  · rintro ⟨i, hi⟩
    refine (spells_or_fault item).resolve_right ?_
    rintro ⟨e, he⟩
    cases (Item.ofChars_of_fault he).symm.trans hi
  · rintro ⟨l, hl⟩
    obtain ⟨i, hi, -⟩ := Item.ofChars_of_spells hl
    exact ⟨i, hi⟩

/-- An item that is written as a literal denotes what the literal stands for, however it is written.
-/
theorem itemDenotes_iff (h : ∃ l, Spells item l) :
    ItemDenotes item a ↔ ∃ l, Spells item l ∧ l.Denotes a := by
  obtain ⟨i, hi⟩ := Item.exists_ofChars_eq_ok_iff.mpr h
  rw [Item.denotes_iff hi]
  constructor
  · obtain ⟨l, hl⟩ := h
    obtain ⟨i', hi', hdenotes⟩ := Item.ofChars_of_spells hl
    cases hi.symm.trans hi'
    exact fun ha => ⟨l, hl, (hdenotes a).mp ha⟩
  · rintro ⟨l, hl, ha⟩
    obtain ⟨i', hi', hdenotes⟩ := Item.ofChars_of_spells hl
    cases hi.symm.trans hi'
    exact (hdenotes a).mpr ha

/-- `addItems` reads all `items` if all are written as literals. -/
theorem exists_addItems_eq_ok_iff :
    (∃ t, s.addItems items = .ok t) ↔ ∀ item ∈ items, ∃ l, Spells item l := by
  induction items generalizing s with
  | nil => simp [addItems]
  | cons item rest ih =>
    rw [List.forall_mem_cons, ← Item.exists_ofChars_eq_ok_iff, addItems]
    cases hi : Item.ofChars item with
    | ok i => simp [ih]
    | error e => simp

/-- The error `e` of `addItems` is that of the first item that is not. -/
theorem addItems_eq_error_iff : s.addItems items = .error e ↔
    ∃ before item after, items = before ++ item :: after ∧
      (∀ w ∈ before, ∃ l, Spells w l) ∧ Fault item e := by
  constructor
  · intro h
    induction items generalizing s with
    | nil => cases h
    | cons item rest ih =>
      unfold addItems at h
      split at h
      · next i hi =>
        obtain ⟨before, bad, after, rfl, hbefore, hfault⟩ := ih h
        have hitem : ∃ l, Spells item l := Item.exists_ofChars_eq_ok_iff.mp ⟨i, hi⟩
        exact ⟨item :: before, bad, after, rfl, List.forall_mem_cons.mpr ⟨hitem, hbefore⟩, hfault⟩
      · next e' he =>
        cases h
        exact ⟨[], item, rest, rfl, nofun, Item.ofChars_eq_error_iff.mp he⟩
  · rintro ⟨before, item, after, rfl, hbefore, hfault⟩
    induction before generalizing s with
    | nil => rw [List.nil_append, addItems, Item.ofChars_of_fault hfault]
    | cons w before ih =>
      obtain ⟨hw, hbefore⟩ := List.forall_mem_cons.mp hbefore
      obtain ⟨i, hi⟩ := Item.exists_ofChars_eq_ok_iff.mpr hw
      rw [List.cons_append, addItems, hi]
      exact ih hbefore

/-! ## Texts -/

/-- The items of `second`, read after those of `first`, are added to what these stand for. -/
theorem addItems_append (s : AddressSet) (first second : List (List Char)) :
    s.addItems (first ++ second) = (do
      let t ← s.addItems first
      let u ← empty.addItems second
      pure (t.addAll u)) := by
  induction first generalizing s with
  | nil =>
    -- What is wrong with the second items does not depend on the set that they are added to.
    cases hu : empty.addItems second with
    | error e => exact addItems_eq_error_iff.mpr (addItems_eq_error_iff.mp hu)
    | ok u =>
      obtain ⟨t, ht⟩ := exists_addItems_eq_ok_iff.mpr (exists_addItems_eq_ok_iff.mp ⟨u, hu⟩)
      rw [List.nil_append, ht]
      refine congrArg Except.ok (eq_of_mem_iff fun a => ?_)
      rw [mem_of_addItems ht, mem_addAll, mem_of_addItems hu]
      simp
  | cons item rest ih =>
    rw [List.cons_append, addItems, addItems]
    cases Item.ofChars item with
    | ok i => exact ih _
    | error e => rfl

theorem words_between {first blanks second : List Char} (hne : blanks ≠ [])
    (h : ∀ c ∈ blanks, isBlank c = true) :
    words (first ++ blanks ++ second) = words first ++ words second := by
  obtain ⟨c, rest, rfl⟩ := List.exists_cons_of_ne_nil hne
  obtain ⟨hc, hrest⟩ := List.forall_mem_cons.mp h
  rw [List.append_assoc, List.cons_append, words_append_blank hc, words_append_blanks hrest]

/-- A `text` is laid out from `items` in one way. `parse` reads it if each item is written as a
`Literal`, and then as the set of the addresses that the items stand for; otherwise the error is
that of the first item that is not. So `first` and `second` with `blanks` between them are read as
the union of what they are read as. -/
theorem parse_grammar :
    (∀ text, ∃ items, (∀ ws, Layout text.toList ws ↔ ws = items) ∧
      ((∃ s, parse text = .ok s) ↔ ∀ item ∈ items, ∃ l, Spells item l) ∧
      (∀ s, parse text = .ok s →
        ∀ a, a ∈ s ↔ ∃ item ∈ items, ∃ l, Spells item l ∧ l.Denotes a) ∧
      ∀ e, parse text = .error e ↔ ∃ before item after, items = before ++ item :: after ∧
        (∀ w ∈ before, ∃ l, Spells w l) ∧ Fault item e) ∧
    ∀ first blanks second : String, blanks.toList ≠ [] →
      (∀ c ∈ blanks.toList, isBlank c = true) →
      parse (first ++ blanks ++ second) = (do
        let s ← parse first
        let t ← parse second
        pure (s.addAll t)) := by
  refine ⟨fun text => ⟨words text.toList, fun ws => layout_iff, exists_addItems_eq_ok_iff,
    fun s hs a => ?_, fun e => addItems_eq_error_iff⟩, fun first blanks second hne hblanks => ?_⟩
  · have hitems := exists_addItems_eq_ok_iff.mp ⟨s, hs⟩
    rw [mem_of_parse hs, TextDenotes]
    exact exists_congr fun item => and_congr_right fun hitem => itemDenotes_iff (hitems item hitem)
  · rw [parse, ofChars, String.toList_append, String.toList_append, words_between hne hblanks]
    exact addItems_append empty _ _

/-- A block and a span, wide blanks, and then two items that have a `Fault`. -/
theorem parse_grammar_reversed :
    "\u2003\n".toList ≠ [] ∧ (∀ c ∈ "\u2003\n".toList, isBlank c = true) ∧
    (∃ s, parse "10.1.2.3/+08 ::1-::2" = .ok s) ∧
    ∃ e, parse ("10.1.2.3/+08 ::1-::2" ++ "\u2003\n" ++ "10.0.0.9-10.0.0.1 10.0.0.0/33") =
        .error e ∧
      e = .reversed "10.0.0.9-10.0.0.1".toList ∧ Fault "10.0.0.9-10.0.0.1".toList e := by
  have hne : "\u2003\n".toList ≠ [] := by decide
  have hblanks : ∀ c ∈ "\u2003\n".toList, isBlank c = true :=
    List.all_eq_true.mp (by decide)
  obtain ⟨s, hs⟩ : ∃ s, parse "10.1.2.3/+08 ::1-::2" = .ok s := ⟨_, rfl⟩
  have hbad : parse "10.0.0.9-10.0.0.1 10.0.0.0/33" =
      .error (.reversed "10.0.0.9-10.0.0.1".toList) := rfl
  refine ⟨hne, hblanks, ⟨s, hs⟩, _, ?_, rfl, Item.ofChars_eq_error_iff.mp rfl⟩
  rw [parse_grammar.2 _ _ _ hne hblanks, hs, hbad]
  rfl

end AddressSet

end SplitTunnel.Net
