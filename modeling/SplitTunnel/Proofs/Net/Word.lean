import SplitTunnel.Net.Cover
import SplitTunnel.Proofs.Net.Laminar

/-!
# Numbers of a fixed number of bits (`SPEC_FULL.md` §4.1, 128-bit arithmetic)

Arithmetic on words that gives no result where the number does not fit: `add?`, `sub?`,
`shiftLeft?` and `narrow?`. `addCapped` stops at the greatest word instead.

* `add?_eq_some_iff`, `sub?_eq_some_iff`, `shiftLeft?_eq_some_iff`, `narrow?_eq_some_iff`: a result
  is the exact one.
* `add?_ofNat`, `sub?_ofNat`, `one_shiftLeft?_ofNat`, `narrow?_ofNat`: words of numbers have a
  result if it fits.
* `addCapped_one_lt_iff`: a sum that stops at the greatest word is below a word if and only if the
  exact one is.
* `ofNat_or_mask`: setting the low bits of an aligned number adds them.
* `two_pow_dvd_iff_le_trailingZeros`: the low zeros of a word count the powers of two in it.
-/

namespace SplitTunnel.Net.Word

variable {w v k m n : Nat}

/-- `x + y`, unless it is too great. -/
def add? (x y : BitVec w) : Option (BitVec w) := if x.uaddOverflow y then none else some (x + y)

/-- `x - y`, unless it is below zero. -/
def sub? (x y : BitVec w) : Option (BitVec w) := if x.usubOverflow y then none else some (x - y)

/-- All bits of `x` moved up by `n` places, unless the word has no such place or a bit is lost. -/
def shiftLeft? (x : BitVec w) (n : BitVec v) : Option (BitVec w) :=
  if n.toNat < w ∧ x.toNat * 2 ^ n.toNat < 2 ^ w then some (x <<< n) else none

/-- The number of `x` in `v` bits, unless it is too great for that. -/
def narrow? (v : Nat) (x : BitVec w) : Option (BitVec v) :=
  if x.toNat < 2 ^ v then some (x.setWidth v) else none

/-- `x + y`, or the greatest word if that is less. -/
def addCapped (x y : BitVec w) : BitVec w :=
  if x.uaddOverflow y then BitVec.allOnes w else x + y

/-- How many bits below the lowest one that is set in `x` are clear, or all if none is set. -/
def trailingZeros (x : BitVec w) : BitVec 32 := x.ctz.setWidth 32

theorem toNat_ofNat_of_lt (h : n < 2 ^ w) : (BitVec.ofNat w n).toNat = n := by
  rw [BitVec.toNat_ofNat, Nat.mod_eq_of_lt h]

theorem ofNat_lt_iff (hm : m < 2 ^ w) (hn : n < 2 ^ w) :
    BitVec.ofNat w m < BitVec.ofNat w n ↔ m < n := by
  rw [BitVec.ofNat_lt_ofNat, Nat.mod_eq_of_lt hm, Nat.mod_eq_of_lt hn]

theorem ofNat_le_iff (hm : m < 2 ^ w) (hn : n < 2 ^ w) :
    BitVec.ofNat w m ≤ BitVec.ofNat w n ↔ m ≤ n := by
  rw [BitVec.ofNat_le_ofNat, Nat.mod_eq_of_lt hm, Nat.mod_eq_of_lt hn]

/-! ## Exact results -/

section Exact

variable {x y z : BitVec w}

theorem add?_eq_some_iff : add? x y = some z ↔ z.toNat = x.toNat + y.toNat := by
  have hz := z.isLt
  rw [add?, BitVec.uaddOverflow]
  by_cases h : x.toNat + y.toNat ≥ 2 ^ w
  · rw [if_pos (decide_eq_true h)]
    exact iff_of_false nofun (by omega)
  · rw [if_neg (by simpa using h), Option.some.injEq, ← BitVec.toNat_inj,
      BitVec.toNat_add_of_lt (by omega), eq_comm]

theorem sub?_eq_some_iff : sub? x y = some z ↔ z.toNat + y.toNat = x.toNat := by
  rw [sub?, BitVec.usubOverflow]
  by_cases h : x.toNat < y.toNat
  · rw [if_pos (decide_eq_true h)]
    exact iff_of_false nofun (by omega)
  · rw [if_neg (by simpa using h), Option.some.injEq, ← BitVec.toNat_inj,
      BitVec.toNat_sub_of_le (BitVec.le_def.mpr (Nat.le_of_not_lt h))]
    omega

theorem shiftLeft?_eq_some_iff {n : BitVec v} :
    shiftLeft? x n = some z ↔ n.toNat < w ∧ z.toNat = x.toNat * 2 ^ n.toNat := by
  have hz := z.isLt
  rw [shiftLeft?]
  by_cases h : n.toNat < w ∧ x.toNat * 2 ^ n.toNat < 2 ^ w
  · rw [if_pos h, Option.some.injEq, ← BitVec.toNat_inj, BitVec.shiftLeft_eq',
      BitVec.toNat_shiftLeft, Nat.shiftLeft_eq, Nat.mod_eq_of_lt h.2, eq_comm]
    exact (and_iff_right h.1).symm
  · rw [if_neg h]
    exact iff_of_false nofun fun hz' => h ⟨hz'.1, hz'.2 ▸ hz⟩

theorem narrow?_eq_some_iff {z : BitVec v} : narrow? v x = some z ↔ z.toNat = x.toNat := by
  have hz := z.isLt
  rw [narrow?]
  by_cases h : x.toNat < 2 ^ v
  · rw [if_pos h, Option.some.injEq, ← BitVec.toNat_inj, BitVec.toNat_setWidth,
      Nat.mod_eq_of_lt h, eq_comm]
  · rw [if_neg h]
    exact iff_of_false nofun (by omega)

end Exact

theorem add?_ofNat (h : m + n < 2 ^ w) :
    add? (BitVec.ofNat w m) (BitVec.ofNat w n) = some (BitVec.ofNat w (m + n)) := by
  rw [add?_eq_some_iff, toNat_ofNat_of_lt h, toNat_ofNat_of_lt (by omega),
    toNat_ofNat_of_lt (by omega)]

theorem sub?_ofNat (h : n ≤ m) (hm : m < 2 ^ w) :
    sub? (BitVec.ofNat w m) (BitVec.ofNat w n) = some (BitVec.ofNat w (m - n)) := by
  rw [sub?_eq_some_iff, toNat_ofNat_of_lt hm, toNat_ofNat_of_lt (by omega),
    toNat_ofNat_of_lt (by omega), Nat.sub_add_cancel h]

theorem one_shiftLeft?_ofNat (h : n < w) (hv : n < 2 ^ v) :
    shiftLeft? (BitVec.ofNat w 1) (BitVec.ofNat v n) = some (BitVec.ofNat w (2 ^ n)) := by
  have hpow : 2 ^ n < 2 ^ w := Nat.pow_lt_pow_right (by decide) h
  rw [shiftLeft?_eq_some_iff, toNat_ofNat_of_lt hv, toNat_ofNat_of_lt hpow,
    toNat_ofNat_of_lt (Nat.one_lt_two_pow (by omega)), Nat.one_mul]
  exact ⟨h, rfl⟩

theorem narrow?_ofNat (hw : n < 2 ^ w) (hv : n < 2 ^ v) :
    narrow? v (BitVec.ofNat w n) = some (BitVec.ofNat v n) := by
  rw [narrow?_eq_some_iff, toNat_ofNat_of_lt hw, toNat_ofNat_of_lt hv]

/-- No word is above the greatest one, so it does not matter that `addCapped` stops there. -/
theorem addCapped_one_lt_iff (hm : m < 2 ^ w) (hn : n < 2 ^ w) :
    addCapped (BitVec.ofNat w m) (BitVec.ofNat w 1) < BitVec.ofNat w n ↔ m + 1 < n := by
  by_cases h : m + 1 < 2 ^ w
  · have hadd := add?_ofNat h
    rw [add?] at hadd
    split at hadd
    · cases hadd
    · next hfits =>
      rw [addCapped, if_neg hfits, Option.some.inj hadd, ofNat_lt_iff h hn]
  · have hone : (BitVec.ofNat w 1).toNat ≤ 1 := Nat.mod_le ..
    have hcapped : (addCapped (BitVec.ofNat w m) (BitVec.ofNat w 1)).toNat = 2 ^ w - 1 := by
      rw [addCapped]
      split
      · exact BitVec.toNat_allOnes
      · next hfits =>
        rw [BitVec.uaddOverflow, toNat_ofNat_of_lt hm] at hfits
        simp only [ge_iff_le, decide_eq_true_eq, Nat.not_le] at hfits
        rw [BitVec.toNat_add_of_lt (by rwa [toNat_ofNat_of_lt hm]), toNat_ofNat_of_lt hm]
        omega
    rw [BitVec.lt_def, hcapped, toNat_ofNat_of_lt hn]
    omega

theorem ofNat_or_mask (h : 2 ^ k ∣ n) :
    BitVec.ofNat w n ||| BitVec.ofNat w (2 ^ k - 1) = BitVec.ofNat w (n + (2 ^ k - 1)) := by
  rw [← BitVec.ofNat_or, or_two_pow_sub_one h]

/-! ## Low zeros -/

/-- `n` is a multiple of `2 ^ k` if and only if its `k` low bits are clear. -/
theorem two_pow_dvd_iff_testBit : 2 ^ k ∣ n ↔ ∀ i < k, n.testBit i = false := by
  rw [Nat.dvd_iff_mod_eq_zero]
  constructor
  · intro h i hi
    have hbit : (n % 2 ^ k).testBit i = false := h ▸ Nat.zero_testBit i
    simpa [Nat.testBit_mod_two_pow, hi] using hbit
  · intro h
    refine Nat.eq_of_testBit_eq fun i => ?_
    rw [Nat.testBit_mod_two_pow, Nat.zero_testBit]
    by_cases hi : i < k
    · rw [h i hi, Bool.and_false]
    · rw [decide_eq_false hi, Bool.false_and]

theorem toNat_trailingZeros (x : BitVec w) (hw : w < 2 ^ 32) :
    (trailingZeros x).toNat = x.ctz.toNat := by
  have hle : x.ctz.toNat ≤ w := by
    have h := BitVec.le_def.mp (BitVec.clz_le (x := x.reverse))
    simpa [BitVec.ctz, Nat.mod_eq_of_lt (Nat.lt_two_pow_self (n := w))] using h
  rw [trailingZeros, BitVec.toNat_setWidth, Nat.mod_eq_of_lt (by omega)]

theorem two_pow_dvd_iff_le_trailingZeros (hw : w < 2 ^ 32) (hk : k ≤ w) :
    2 ^ k ∣ n ↔ k ≤ (trailingZeros (BitVec.ofNat w n)).toNat := by
  rw [toNat_trailingZeros _ hw, two_pow_dvd_iff_testBit]
  constructor
  · intro h
    by_contra hlt
    have hlt : (BitVec.ofNat w n).ctz.toNat < k := Nat.lt_of_not_le hlt
    have hzero : BitVec.ofNat w n ≠ 0#w := by
      rw [← BitVec.ctz_lt_iff_ne_zero, BitVec.lt_def, BitVec.natCast_eq_ofNat,
        toNat_ofNat_of_lt Nat.lt_two_pow_self]
      omega
    have hset := BitVec.getLsbD_true_ctz_of_ne_zero hzero
    rw [BitVec.getLsbD_ofNat, h _ hlt, Bool.and_false] at hset
    cases hset
  · intro h i hi
    have hclear := BitVec.getLsbD_false_of_lt_ctz (Nat.lt_of_lt_of_le hi h)
    rw [BitVec.getLsbD_ofNat, decide_eq_true (by omega), Bool.true_and] at hclear
    exact hclear

end SplitTunnel.Net.Word
