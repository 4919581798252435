import SplitTunnel.Proofs.Net.Arithmetic
import SplitTunnel.Proofs.Net.Cover
import SplitTunnel.Proofs.Net.Writing
import SplitTunnel.Proofs.Text.Words

/-!
# Texts that are read back (`SPEC_FULL.md` §4.1, display, and §8)

What is written for a block or a set is read as that block or set, so a set's text is the one text
for its addresses.

* `Runs.eq_of_mem_iff`, `AddressSet.eq_of_mem_iff`: sets with the same addresses are the same.
* `Block.ofChars_chars`, `AddressSet.parse_text`: `Block.ofChars` and `parse` undo writing.
* `AddressSet.text_eq_text_iff`: two texts are written alike after `parse` if and only if they
  denote the same addresses.
-/

namespace SplitTunnel

namespace Net

open Text

/-! ## Sets with the same addresses -/

namespace Runs

variable {f : Family} {r r' : Runs f} {s t : Span f} {n : Nat}

theorem lt_size_of_mem (h : n ∈ r) : n < f.size := by
  obtain ⟨s, -, hn⟩ := h
  exact Nat.lt_of_le_of_lt hn.2 s.last_lt

/-- A span `s` of `r` lies in one span of `r'`, if all numbers of `r` are in `r'`. -/
theorem exists_span_of_subset (hs : s ∈ r.spans) (h : ∀ n, n ∈ r → n ∈ r') :
    ∃ t ∈ r'.spans, t.first ≤ s.first ∧ s.last ≤ t.last := by
  have hle := s.first_le_last
  have hall (n : Nat) (hlo : s.first ≤ n) (hhi : n < s.first + (s.last + 1 - s.first)) :
      n ∈ r' := by
    apply h
    exact ⟨s, hs, hlo, by omega⟩
  obtain ⟨t, ht, hfirst, hlast⟩ := exists_span_of_forall_mem (by omega) hall
  exact ⟨t, ht, hfirst, by omega⟩

/-- Two spans `s` and `t` of `r` with a common number `n` are equal. -/
theorem eq_of_mem_of_mem (hs : s ∈ r.spans) (ht : t ∈ r.spans) (hns : n ∈ s) (hnt : n ∈ t) :
    s = t :=
  eq_of_touches hs ht hnt (Nat.le_succ_of_le hns.1) (Nat.le_succ_of_le hns.2)

/-- Neither of `r` and `r'` has a number that the other has not, so neither has a span that the
other has not: a span lies in one of the other set, which lies in one of the first. -/
theorem mem_spans_of_mem_iff (h : ∀ n, n ∈ r ↔ n ∈ r') (hs : s ∈ r.spans) : s ∈ r'.spans := by
  obtain ⟨t, ht, hfirst, hlast⟩ := exists_span_of_subset hs fun n => (h n).mp
  obtain ⟨u, hu, hfirst', hlast'⟩ := exists_span_of_subset ht fun n => (h n).mpr
  have hle := s.first_le_last
  -- The span lies in one that lies in the third, which is the first again, so all three are one.
  have hsu : s = u := eq_of_mem_of_mem hs hu ⟨Nat.le_refl _, hle⟩ ⟨by omega, by omega⟩
  subst hsu
  have hst : s = t := Span.ext (by omega) (by omega)
  exact hst ▸ ht

theorem nodup_spans (r : Runs f) : r.spans.Nodup := by
  refine r.separated.imp fun {s t} hst heq => ?_
  have := s.first_le_last
  subst heq
  simp only [Span.Before] at hst
  omega

theorem eq_of_mem_iff (h : ∀ n, n ∈ r ↔ n ∈ r') : r = r' := by
  have hperm : r.spans.Perm r'.spans :=
    (List.perm_ext_iff_of_nodup r.nodup_spans r'.nodup_spans).mpr
      fun s => ⟨mem_spans_of_mem_iff h, mem_spans_of_mem_iff fun n => (h n).symm⟩
  have hspans : r.spans = r'.spans := by
    refine hperm.eq_of_pairwise (fun s t _ _ hst hts => ?_) r.separated r'.separated
    have := s.first_le_last
    have := t.first_le_last
    simp only [Span.Before] at hst hts
    omega
  cases r
  cases r'
  cases hspans
  rfl

end Runs

namespace AddressSet

variable {s t : AddressSet} {a : Address}

/-- `s` and `t` are equal if they have the same addresses. -/
theorem eq_of_mem_iff (h : ∀ a, a ∈ s ↔ a ∈ t) : s = t := by
  have hruns (f : Family) : s.runs f = t.runs f := by
    refine Runs.eq_of_mem_iff fun n => ?_
    by_cases hn : n < f.size
    · exact h ⟨f, n, hn⟩
    · exact iff_of_false (fun hs => hn (Runs.lt_size_of_mem hs)) fun ht =>
        hn (Runs.lt_size_of_mem ht)
  have h4 : s.ipv4 = t.ipv4 := hruns .ipv4
  have h6 : s.ipv6 = t.ipv6 := hruns .ipv6
  cases s
  cases t
  cases h4
  cases h6
  rfl

end AddressSet

/-! ## Blocks -/

namespace Block

/-- `of?` gives `b` for the first address and the length of `b`. -/
theorem of?_base (b : Block) : of? b.base b.prefixLength = some b := by
  rw [of?, dif_pos b.prefixLength_le]
  refine congrArg some (Block.ext ?_ rfl)
  exact Address.ext rfl (Nat.div_mul_cancel b.dvd_base)

theorem prefixLength_le_255 (b : Block) : b.prefixLength ≤ 255 := by
  have hle := b.prefixLength_le
  have hwidth : b.base.family.width ≤ 128 := by cases b.base.family <;> decide
  omega

/-- `Block.ofChars` reads back `b.chars`. -/
theorem ofChars_chars (b : Block) : Block.ofChars b.chars = .ok b := by
  have hcut : cut '/' b.chars = some (b.base.chars, decimal b.prefixLength) :=
    cut_eq_some_iff.mpr ⟨rfl, Address.IsMark.notMem_chars (by decide) b.base⟩
  simp only [Block.ofChars, hcut, Address.ofChars?_chars, unsigned?_decimal b.prefixLength_le_255,
    Option.bind_some, of?_base]

theorem notMem_chars {c : Char} (hc : Address.IsMark c) (hslash : c ≠ '/') (b : Block) :
    c ∉ b.chars := by
  have hdigits : c ∉ decimal b.prefixLength :=
    notMem_of_natural? (natural?_toDigits (by decide) (by decide) _) hc.digit?_ten
  simp only [chars, List.mem_append, List.mem_cons, not_or]
  exact ⟨hc.notMem_chars b.base, hslash, hdigits⟩

theorem chars_ne_nil (b : Block) : b.chars ≠ [] := by simp [chars]

end Block

/-! ## Sets -/

namespace AddressSet

variable {s t : AddressSet}

/-- As an item, `b.chars` is a block: it is no span from one address to another. -/
theorem Item.ofChars_chars (b : Block) : Item.ofChars b.chars = .ok ⟨b.family, b.span⟩ := by
  have hcut : cut '-' b.chars = none :=
    cut_eq_none_iff.mpr (b.notMem_chars (by decide) (by decide))
  simp only [Item.ofChars, hcut, Block.ofChars_chars]
  rfl

theorem addItems_chars (s : AddressSet) (bs : List Block) :
    s.addItems (bs.map Block.chars) = .ok (s.extend bs) := by
  induction bs generalizing s with
  | nil => rfl
  | cons b rest ih =>
    simp only [List.map_cons, addItems, Item.ofChars_chars]
    exact ih (s.add b)

theorem words_chars (s : AddressSet) : words s.chars = s.subnets.map Block.chars := by
  refine words_intercalate fun w hw => ?_
  obtain ⟨b, -, rfl⟩ := List.mem_map.mp hw
  refine ⟨b.chars_ne_nil, fun c hc => ?_⟩
  by_contra hblank
  have hblank : isBlank c = true := by simpa using hblank
  refine b.notMem_chars (Address.isMark_of_isBlank hblank) ?_ hc
  rintro rfl
  cases hblank

/-- `parse` reads back `s.text`. -/
theorem parse_text (s : AddressSet) : parse s.text = .ok s := by
  have hset : ofBlocks s.subnets = s := eq_of_mem_iff fun a => mem_ofBlocks.trans mem_subnets
  rw [parse, text, String.toList_ofList, ofChars, words_chars, addItems_chars]
  exact congrArg Except.ok hset

theorem text_injective (h : s.text = t.text) : s = t :=
  Except.ok.inj ((parse_text s).symm.trans (h ▸ parse_text t))

theorem text_eq_text_iff {x y : String} (hx : parse x = .ok s) (hy : parse y = .ok t) :
    s.text = t.text ↔ ∀ a, TextDenotes x a ↔ TextDenotes y a := by
  constructor
  · intro h a
    rw [← mem_of_parse hx, ← mem_of_parse hy, text_injective h]
  · intro h
    have hst : s = t := eq_of_mem_iff fun a => by rw [mem_of_parse hx, mem_of_parse hy, h a]
    rw [hst]

/-- `parse` undoes `text` for every block, every set and every address. So of two texts `x` and `y`
that are read as sets `s` and `t` these are written alike if and only if `x` and `y` denote the same
addresses, and a set that is written, read and written again has the same text. `Address.parse?`
takes the texts with `Address.Spells` and no other, and one of them is written, as `Address.Written`
says. -/
theorem text_canonical :
    (∀ b : Block, Block.parse b.text = .ok b) ∧
    (∀ s : AddressSet, parse s.text = .ok s) ∧
    (∀ x y s t, parse x = .ok s → parse y = .ok t →
      (s.text = t.text ↔ ∀ a, TextDenotes x a ↔ TextDenotes y a)) ∧
    (∀ s : AddressSet, (parse s.text).map text = .ok s.text) ∧
    (∀ a : Address, Address.parse? a.text = some a) ∧
    (∀ x a, Address.parse? x = some a ↔ Address.Spells x.toList a) ∧
    ∀ a x, Address.Written a x ↔ x = a.text.toList := by
  refine ⟨fun b => ?_, parse_text, fun x y s t => text_eq_text_iff, fun s => ?_, fun a => ?_,
    fun x a => Address.ofChars?_eq_some_iff, fun a x => ?_⟩
  · rw [Block.parse, Block.text, String.toList_ofList]
    exact b.ofChars_chars
  · rw [parse_text]
    rfl
  · rw [Address.parse?, Address.text, String.toList_ofList]
    exact a.ofChars?_chars
  · rw [Address.text, String.toList_ofList]
    exact Address.written_iff

/-- The block `10.0.0.0/8` in two halves and an address in groups; the block from end to end and the
address in dotted form. -/
theorem text_canonical_halves :
    ∃ s t, parse "::ffff:a00:1 10.128.0.0/9 10.0.0.0/9" = .ok s ∧
      parse "10.0.0.0-10.255.255.255 ::ffff:10.0.0.1" = .ok t ∧ s.text = t.text ∧
      ∀ a, TextDenotes "::ffff:a00:1 10.128.0.0/9 10.0.0.0/9" a ↔
        TextDenotes "10.0.0.0-10.255.255.255 ::ffff:10.0.0.1" a := by
  have hsame : parse "::ffff:a00:1 10.128.0.0/9 10.0.0.0/9" =
      parse "10.0.0.0-10.255.255.255 ::ffff:10.0.0.1" := by rfl
  obtain ⟨s, hs⟩ : ∃ s, parse "::ffff:a00:1 10.128.0.0/9 10.0.0.0/9" = .ok s := ⟨_, rfl⟩
  exact ⟨s, s, hs, hsame ▸ hs, rfl,
    (text_canonical.2.2.1 _ _ s s hs (hsame ▸ hs)).mp rfl⟩

end AddressSet

end Net

end SplitTunnel
