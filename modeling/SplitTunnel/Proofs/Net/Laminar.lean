import SplitTunnel.Proofs.Net.Grammar
import Mathlib.Data.Set.Card
import Mathlib.Order.Interval.Finset.Nat

/-!
# Blocks by their leading bits (`SPEC_FULL.md` §3, IP range, and §4.1)

A block can be looked at in three ways: its first address, with all bits after the leading ones
clear; its last address, with all of them set; and the addresses that have the leading bits.

* `Address.bit`: the bits of an address, the highest first.
* `Address.div_two_pow_eq_iff`: addresses agree in their leading bits if and only if what is left
  of their numbers without the other bits is the same.
* `Masks`: what is relied on of a package that makes networks. `Block.of?_eq_network`: only one
  network can be made then.
* `Block.encard_addresses`, `Block.of?_eq_of_mem`, `Block.disjoint_or_subset`, `Block.ext_mem_iff`:
  how many addresses a block has, that each of them makes the same block, how two blocks lie to each
  other, and when they are the same.
* `Block.around_laminar`: all of these together.
-/

namespace SplitTunnel.Net

/-- Setting the `h` low bits of `n`, none of which is set, adds them. -/
theorem or_two_pow_sub_one {n h : Nat} (hd : 2 ^ h ∣ n) : n ||| (2 ^ h - 1) = n + (2 ^ h - 1) := by
  obtain ⟨k, rfl⟩ := hd
  have hlt : 2 ^ h - 1 < 2 ^ h := Nat.sub_one_lt_of_lt (Nat.two_pow_pos h)
  exact (Nat.two_pow_add_eq_or_of_lt hlt k).symm

namespace Address

variable {a b : Address} {i j n : Nat}

/-- The bit of `a` at place `i`, counted from the highest one. -/
def bit (a : Address) (i : Nat) : Bool := a.value.testBit (a.family.width - 1 - i)

theorem testBit_value_of_width_le (h : a.family.width ≤ j) : a.value.testBit j = false :=
  Nat.testBit_lt_two_pow (Nat.lt_of_lt_of_le a.value_lt (Nat.pow_le_pow_right (by decide) h))

/-- The bit of `a.value` at place `j` from the low end. -/
theorem testBit_value_of_lt (h : j < a.family.width) :
    a.value.testBit j = a.bit (a.family.width - 1 - j) := by
  rw [bit, Nat.sub_sub_self (Nat.le_sub_one_of_lt h)]

theorem div_two_pow_eq_iff (hf : a.family = b.family) (hn : n ≤ a.family.width) :
    a.value / 2 ^ (a.family.width - n) = b.value / 2 ^ (a.family.width - n) ↔
      ∀ i < n, a.bit i = b.bit i := by
  constructor
  · intro h i hi
    have hbit := congrArg (Nat.testBit · (n - 1 - i)) h
    simp only [Nat.testBit_div_two_pow] at hbit
    have hplace : n - 1 - i + (a.family.width - n) = a.family.width - 1 - i := by omega
    rw [hplace] at hbit
    rw [bit, bit, ← hf]
    exact hbit
  · intro h
    refine Nat.eq_of_testBit_eq fun j => ?_
    rw [Nat.testBit_div_two_pow, Nat.testBit_div_two_pow]
    by_cases hj : j + (a.family.width - n) < a.family.width
    · rw [testBit_value_of_lt hj, testBit_value_of_lt (hf ▸ hj), ← hf]
      exact h _ (by omega)
    · rw [testBit_value_of_width_le (by omega), testBit_value_of_width_le (hf ▸ by omega)]

/-- `a` and `b` are equal if their bits are. -/
theorem eq_of_bit_eq (hf : a.family = b.family) (h : ∀ i < a.family.width, a.bit i = b.bit i) :
    a = b := by
  have hvalue := (div_two_pow_eq_iff hf (Nat.le_refl _)).mpr h
  simp only [Nat.sub_self, Nat.pow_zero, Nat.div_one] at hvalue
  exact Address.ext hf hvalue

/-- `a.network n` has the first `n` bits of `a`, and no other bit set. -/
theorem bit_network (hn : n ≤ a.family.width) (hi : i < a.family.width) :
    (a.network n).bit i = (decide (i < n) && a.bit i) := by
  show (a.value / 2 ^ (a.family.width - n) * 2 ^ (a.family.width - n)).testBit
    (a.family.width - 1 - i) = _
  rw [Nat.testBit_mul_two_pow, Nat.testBit_div_two_pow, bit]
  have hplace : a.family.width - n ≤ a.family.width - 1 - i ↔ i < n := by omega
  by_cases hin : i < n
  · have hle := hplace.mpr hin
    simp only [hin, hle, decide_true, Bool.true_and, Nat.sub_add_cancel hle]
  · have hle : ¬ a.family.width - n ≤ a.family.width - 1 - i := fun h => hin (hplace.mp h)
    simp only [hin, hle, decide_false, Bool.false_and]

end Address

/-- What is relied on of a package that makes networks, each given by its first address and its
length: a length that is too long for the address is refused, and else the bits after the first `n`
are cleared. -/
structure Masks (network? : Address → Nat → Option (Address × Nat)) : Prop where
  refuses : ∀ {a n}, a.family.width < n → network? a n = none
  clears : ∀ {a n}, n ≤ a.family.width → ∃ x, network? a n = some (x, n) ∧ x.family = a.family ∧
    ∀ i < a.family.width, x.bit i = (decide (i < n) && a.bit i)

/-- `Address.network` is such a way to make networks. -/
theorem masks_network :
    Masks fun a n => if n ≤ a.family.width then some (a.network n, n) else none where
  refuses h := if_neg (Nat.not_le_of_lt h)
  clears h := ⟨_, if_pos h, rfl, fun _ hi => Address.bit_network h hi⟩

namespace Block

variable {a x : Address} {b c : Block} {n : Nat}

theorem exists_of?_iff : (∃ b, of? a n = some b) ↔ n ≤ a.family.width := by
  constructor
  · rintro ⟨b, h⟩
    by_contra hn
    rw [of?, dif_neg hn] at h
    cases h
  · exact fun hn => ⟨_, dif_pos hn⟩

theorem around_eq_ok_iff : around a n = .ok b ↔ of? a n = some b := by
  rw [around]
  cases of? a n with
  | none => simp
  | some c => simp

theorem family_of? (h : of? a n = some b) : b.family = a.family ∧ b.prefixLength = n := by
  obtain ⟨hn, rfl⟩ : ∃ hn : n ≤ a.family.width, b = ⟨a.network n, n, hn, a.dvd_clearLast _⟩ := by
    have hn := exists_of?_iff.mp ⟨b, h⟩
    rw [of?, dif_pos hn] at h
    exact ⟨hn, (Option.some.inj h).symm⟩
  exact ⟨rfl, rfl⟩

/-- Whatever `network?` makes, its block is the one that `of?` makes. -/
theorem of?_eq_network {network? : Address → Nat → Option (Address × Nat)} (h : Masks network?) :
    network? a n = (of? a n).map fun b => (b.base, b.prefixLength) := by
  by_cases hn : n ≤ a.family.width
  · obtain ⟨x, hx, hf, hbit⟩ := h.clears hn
    rw [hx, of?, dif_pos hn]
    refine congrArg (fun y => some (y, n)) (Address.eq_of_bit_eq hf fun i hi => ?_)
    rw [hf] at hi
    rw [hbit i hi, Address.bit_network hn hi]
  · rw [h.refuses (Nat.lt_of_not_le hn), of?, dif_neg hn]
    rfl

/-- `b.span.last` has all bits after the leading ones set. -/
theorem last_span (b : Block) : b.span.last = b.span.first ||| (2 ^ b.hostBits - 1) :=
  (or_two_pow_sub_one b.dvd_base_value).symm

/-- The addresses of `b` are those that share their first `n` bits with `a`. -/
theorem mem_of?_iff_bits (h : of? a n = some b) :
    x ∈ b ↔ x.family = a.family ∧ ∀ i < n, x.bit i = a.bit i := by
  rw [mem_of?_iff h]
  refine and_congr_right fun hf => ?_
  have hn := exists_of?_iff.mp ⟨b, h⟩
  rw [← hf] at hn ⊢
  exact Address.div_two_pow_eq_iff hf hn

theorem encard_addresses (b : Block) : {x : Address | x ∈ b}.encard = 2 ^ b.hostBits := by
  have hinj : Set.InjOn Address.value {x | x ∈ b} := fun x hx y hy h =>
    Address.ext ((mem_iff_bounds.mp hx).1.trans (mem_iff_bounds.mp hy).1.symm) h
  have himage : Address.value '' {x | x ∈ b} =
      ↑(Finset.Ico b.base.value (b.base.value + 2 ^ b.hostBits)) := by
    ext v
    simp only [Set.mem_image, Set.mem_ofPred_eq, Finset.coe_Ico, Set.mem_Ico]
    constructor
    · rintro ⟨x, hx, rfl⟩
      exact (mem_iff_bounds.mp hx).2
    · rintro ⟨hlo, hhi⟩
      exact b.exists_mem_value hlo hhi
  rw [← hinj.encard_image, himage, Set.encard_coe_eq_coe_finsetCard, Nat.card_Ico,
    Nat.add_sub_cancel_left, Nat.cast_pow, Nat.cast_ofNat]

/-- `of?` makes the same block `b` of any of its addresses. -/
theorem of?_eq_of_mem (h : of? a n = some b) (hx : x ∈ b) : of? x n = some b := by
  obtain ⟨hf, hbits⟩ := (mem_of?_iff_bits h).mp hx
  have hn := exists_of?_iff.mp ⟨b, h⟩
  obtain ⟨c, hc⟩ := exists_of?_iff.mpr (hf ▸ hn : n ≤ x.family.width)
  have hsame (y : Address) : y ∈ c ↔ y ∈ b := by
    rw [mem_of?_iff_bits hc, mem_of?_iff_bits h, hf]
    exact and_congr_right fun _ => forall₂_congr fun i hi => by rw [hbits i hi]
  have hcb : c = b := eq_of_subset_of_subset (fun y => (hsame y).mp) fun y => (hsame y).mpr
  rw [hc, hcb]

theorem disjoint_or_subset (b c : Block) : b.Disjoint c ∨ b ⊆ c ∨ c ⊆ b := by
  by_cases h : ∃ a, a ∈ b ∧ a ∈ c
  · obtain ⟨a, hb, hc⟩ := h
    exact .inr (subset_or_subset_of_mem hb hc)
  · exact .inl fun a ha => h ⟨a, ha⟩

theorem ext_mem_iff : b = c ↔ ∀ a, a ∈ b ↔ a ∈ c :=
  ⟨fun h _ => h ▸ Iff.rfl, fun h => eq_of_subset_of_subset (fun a => (h a).mp) fun a => (h a).mpr⟩

/-- `around a n` is a block if and only if `n` is at most the width of the family, and whatever
`network?` makes of `a` and `n` is the same. The range from the block's first to its last address,
which has all bits after the leading `n` set, has exactly the `2 ^ (a.family.width - n)` addresses
of the family that agree with `a` in the leading bits, and each of them makes the block again. Two
blocks have no address in common or one lies inside the other, and blocks with the same addresses
are the same. -/
theorem around_laminar :
    (∀ network?, Masks network? → ∀ a n,
      network? a n = (of? a n).map fun b => (b.base, b.prefixLength)) ∧
    (∀ a n, (∃ b, around a n = .ok b) ↔ n ≤ a.family.width) ∧
    (∀ a n b, around a n = .ok b →
      b.span.last = b.span.first ||| (2 ^ (a.family.width - n) - 1) ∧
      (∀ x : Address, x.family = b.family ∧ b.span.first ≤ x.value ∧ x.value ≤ b.span.last ↔
        x.family = a.family ∧ ∀ i < n, x.bit i = a.bit i) ∧
      {x : Address | x.family = b.family ∧ b.span.first ≤ x.value ∧ x.value ≤ b.span.last}.encard =
        2 ^ (a.family.width - n) ∧
      ∀ x ∈ b, around x n = .ok b) ∧
    (∀ b c : Block, b.Disjoint c ∨ b ⊆ c ∨ c ⊆ b) ∧
    ∀ b c : Block, b = c ↔ ∀ a, a ∈ b ↔ a ∈ c := by
  refine ⟨fun _ h a n => of?_eq_network h, fun a n => ?_, fun a n b h => ?_,
    disjoint_or_subset, fun b c => ext_mem_iff⟩
  · simp only [around_eq_ok_iff]
    exact exists_of?_iff
  · rw [around_eq_ok_iff] at h
    obtain ⟨hf, hlength⟩ := family_of? h
    have hbits : b.hostBits = a.family.width - n := by rw [hostBits, hf, hlength]
    refine ⟨hbits ▸ b.last_span, fun x => mem_of?_iff_bits h, hbits ▸ b.encard_addresses,
      fun x hx => ?_⟩
    exact around_eq_ok_iff.mpr (of?_eq_of_mem h hx)

/-- `10.1.2.3/8` is the block of `10.0.0.0` and of `10.255.255.255`, with `2 ^ 24` addresses. -/
theorem around_laminar_ten :
    ∃ lo a hi b, lo.value = 10 * 2 ^ 24 ∧ a.value = 10 * 2 ^ 24 + 0x010203 ∧
      hi.value = 11 * 2 ^ 24 - 1 ∧ b.base = lo ∧ around a 8 = .ok b ∧ around hi 8 = .ok b ∧
      b.span.last = hi.value ∧ {x : Address | x ∈ b}.encard = 2 ^ 24 ∧
      (of? a 8).map (fun b => (b.base, b.prefixLength)) = some (lo, 8) := by
  let lo : Address := ⟨.ipv4, 10 * 2 ^ 24, by decide⟩
  let a : Address := ⟨.ipv4, 10 * 2 ^ 24 + 0x010203, by decide⟩
  let hi : Address := ⟨.ipv4, 11 * 2 ^ 24 - 1, by decide⟩
  obtain ⟨hnetwork, -, hblock, -, -⟩ := around_laminar
  obtain ⟨b, hb, hbase⟩ : ∃ b, around a 8 = .ok b ∧ b.base = lo :=
    ⟨⟨lo, 8, by decide, by decide⟩, by decide, rfl⟩
  obtain ⟨hlast, hiff, hcount, hmem⟩ := hblock a 8 b hb
  have hwidth : a.family.width - 8 = 24 := rfl
  have hfirst : b.span.first = 10 * 2 ^ 24 := congrArg Address.value hbase
  rw [hwidth, hfirst] at hlast
  rw [hwidth] at hcount
  exact ⟨lo, a, hi, b, rfl, rfl, rfl, hbase, hb, hmem hi ((hiff hi).mpr ⟨rfl, by decide⟩),
    hlast.trans (by decide), hcount, (hnetwork _ masks_network a 8).symm.trans (by decide)⟩

end Block

end SplitTunnel.Net
