import SplitTunnel.Proofs.Net.Word

/-!
# Blocks and covers in words (`SPEC_FULL.md` §3, IP range, and §4.1, `subnets`)

The arithmetic of `Block`, and the loop of `Span.cover` that cuts a span into blocks, in words:
addresses have 128 bits there, or 32 where a block of IPv4 is made, prefix lengths have 8 and counts
of bits 32. Where a number does not fit there is no result. The loop ends whatever it is given,
since it goes on only from a number that fits, which is greater than the last one.

* `WordBlock.span?`: the first and the last address of a block. `cut?`: the blocks of a span.
* `hostMask?_ofNat`, `Block.span?_words`: masks and ends of blocks are exact.
* `fit?_ofNat`: the search for the largest block finds it.
* `Span.cut?_words`: the loop ends, nothing in it fails to fit, and its blocks are the cover.
-/

namespace SplitTunnel.Net

open Word

/-- The two ends of a span as words. -/
structure WordSpan where
  first : BitVec 128
  last : BitVec 128
deriving DecidableEq

/-- A block by its `base` and its `prefixLength`, as words. -/
structure WordBlock where
  family : Family
  base : BitVec family.width
  prefixLength : BitVec 8
deriving DecidableEq

/-- `f.width` as a word. -/
def Family.bits (f : Family) : BitVec 8 := BitVec.ofNat 8 f.width

/-- The word with `hostBits` low bits set. -/
def hostMask? (hostBits : BitVec 32) : Option (BitVec 128) :=
  if 128#32 ≤ hostBits then some (BitVec.allOnes 128)
  else do sub? (← shiftLeft? 1#128 hostBits) 1#128

namespace WordBlock

/-- The first address of `b`, in as many bits as any address has. -/
def first (b : WordBlock) : BitVec 128 := b.base.setWidth 128

/-- The last address of `b`. -/
def last? (b : WordBlock) : Option (BitVec 128) := do
  let hostBits ← sub? b.family.bits b.prefixLength
  return b.first ||| (← hostMask? (hostBits.setWidth 32))

/-- The `first` and the `last?` address of `b`. -/
def span? (b : WordBlock) : Option WordSpan := do return ⟨b.first, ← b.last?⟩

/-- The block that starts at `base` and has `hostBits` low bits free. -/
def ofNumbers? (f : Family) (base : BitVec 128) (hostBits : BitVec 32) : Option WordBlock := do
  let prefixLength ← sub? (f.bits.setWidth 32) hostBits
  return ⟨f, ← narrow? f.width base, ← narrow? 8 prefixLength⟩

end WordBlock

/-- Counts down from `hostBits` to the first number of low bits for which the block from `start` on
does not pass `last`. -/
def fit? (start last : BitVec 128) (hostBits : BitVec 32) : Option (BitVec 32) := do
  if 0#32 < hostBits then
    let mask ← hostMask? hostBits
    if last < start ||| mask then
      (sub? hostBits 1#32).pbind fun fewer _ => fit? start last fewer
    else return hostBits
  else return hostBits
termination_by hostBits.toNat
decreasing_by
  have hfewer := sub?_eq_some_iff.mp ‹sub? hostBits 1#32 = some fewer›
  simp only [BitVec.reduceToNat] at hfewer
  omega

/-- As many low bits as are clear in `start`, but not more than an address of `f` has. -/
def aligned (f : Family) (start : BitVec 128) : BitVec 32 :=
  let bits : BitVec 32 := f.bits.setWidth 32
  if trailingZeros start ≤ bits then trailingZeros start else bits

/-- Cuts the numbers from `start` to `last` into blocks and puts them after those in `out`. -/
def cut? (f : Family) (last start : BitVec 128) (out : List WordBlock) :
    Option (List WordBlock) := do
  let hostBits ← fit? start last (aligned f start)
  let mask ← hostMask? hostBits
  let block ← WordBlock.ofNumbers? f start hostBits
  if last ≤ start ||| mask then return out ++ [block]
  else (add? (start ||| mask) 1#128).pbind fun next _ => cut? f last next (out ++ [block])
termination_by 2 ^ 128 - start.toNat
decreasing_by
  have hnext := add?_eq_some_iff.mp ‹add? (start ||| mask) 1#128 = some next›
  have hle : start.toNat ≤ (start ||| mask).toNat := BitVec.toNat_or .. ▸ Nat.left_le_or
  simp only [BitVec.reduceToNat] at hnext
  omega

/-! ## Numbers as words -/

/-- The ends of `s` as words. -/
def Span.words {f : Family} (s : Span f) : WordSpan :=
  ⟨BitVec.ofNat 128 s.first, BitVec.ofNat 128 s.last⟩

/-- The first address and the length of `b` as words. -/
def Block.words (b : Block) : WordBlock :=
  ⟨b.family, BitVec.ofNat b.family.width b.base.value, BitVec.ofNat 8 b.prefixLength⟩

variable {f : Family} {k m n start last : Nat}

theorem Family.width_le (f : Family) : f.width ≤ 128 := by cases f <;> decide

theorem Family.size_le (f : Family) : f.size ≤ 2 ^ 128 :=
  Nat.pow_le_pow_right (by decide) f.width_le

theorem Family.bits_setWidth (f : Family) : f.bits.setWidth 32 = BitVec.ofNat 32 f.width := by
  cases f <;> rfl

theorem Span.first_lt_two_pow (s : Span f) : s.first < 2 ^ 128 :=
  Nat.lt_of_lt_of_le s.first_lt f.size_le

theorem Span.last_lt_two_pow (s : Span f) : s.last < 2 ^ 128 :=
  Nat.lt_of_lt_of_le s.last_lt f.size_le

/-- No bit of the ends of `s` is lost in `s.words`. -/
theorem Span.toNat_words (s : Span f) :
    s.words.first.toNat = s.first ∧ s.words.last.toNat = s.last :=
  ⟨toNat_ofNat_of_lt s.first_lt_two_pow, toNat_ofNat_of_lt s.last_lt_two_pow⟩

theorem Block.prefixLength_lt_two_pow (b : Block) : b.prefixLength < 2 ^ 8 :=
  Nat.lt_succ_of_le b.prefixLength_le_255

/-- No bit of the numbers of `b` is lost in `b.words`. -/
theorem Block.toNat_words (b : Block) :
    b.words.base.toNat = b.base.value ∧ b.words.prefixLength.toNat = b.prefixLength :=
  ⟨toNat_ofNat_of_lt b.base.value_lt, toNat_ofNat_of_lt b.prefixLength_lt_two_pow⟩

/-! ## Blocks -/

theorem hostMask?_ofNat (h : k ≤ 128) :
    hostMask? (BitVec.ofNat 32 k) = some (BitVec.ofNat 128 (2 ^ k - 1)) := by
  rw [hostMask?]
  split
  · next hle =>
    rw [ofNat_le_iff (by decide) (by omega)] at hle
    have hk : k = 128 := Nat.le_antisymm h hle
    rw [hk]
    rfl
  · next hlt =>
    rw [ofNat_le_iff (by decide) (by omega)] at hlt
    have hpow : 2 ^ k < 2 ^ 128 := Nat.pow_lt_pow_right (by decide) (by omega)
    rw [one_shiftLeft?_ofNat (by omega) (by omega), Option.bind_eq_bind, Option.bind_some,
      sub?_ofNat (Nat.one_le_two_pow) hpow]

/-- `WordBlock.span?` computes the ends of `b`. -/
theorem Block.span?_words (b : Block) : b.words.span? = some b.span.words := by
  have hwidth := b.family.width_le
  have hle : b.prefixLength ≤ b.family.width := b.prefixLength_le
  have hbits : sub? b.family.bits b.words.prefixLength = some (BitVec.ofNat 8 b.hostBits) :=
    sub?_ofNat hle (by omega)
  have hcount : (BitVec.ofNat 8 b.hostBits).setWidth 32 = BitVec.ofNat 32 b.hostBits :=
    BitVec.setWidth_ofNat_of_le_of_lt (by decide) (by rw [hostBits]; omega)
  have hfirst : b.words.first = BitVec.ofNat 128 b.base.value :=
    BitVec.setWidth_ofNat_of_le_of_lt hwidth b.base.value_lt
  have hmask : hostMask? (BitVec.ofNat 32 b.hostBits) =
      some (BitVec.ofNat 128 (2 ^ b.hostBits - 1)) :=
    hostMask?_ofNat (Nat.le_trans (Nat.sub_le ..) hwidth)
  have hlast : b.words.last? = some (BitVec.ofNat 128 b.span.last) := by
    show (sub? b.family.bits b.words.prefixLength).bind _ = _
    rw [hbits, Option.bind_some, hcount, hmask, hfirst]
    exact congrArg some (ofNat_or_mask b.dvd_base_value)
  rw [WordBlock.span?, hlast, hfirst]
  rfl

/-- The largest block that starts where `s` does, as `Span.firstBlock` has it. -/
theorem Span.ofNumbers?_words (s : Span f) :
    WordBlock.ofNumbers? f (BitVec.ofNat 128 s.first)
      (BitVec.ofNat 32 (largestFit s.first s.last f.width)) = some s.firstBlock.words := by
  have hwidth := f.width_le
  have hle : largestFit s.first s.last f.width ≤ f.width := largestFit_le ..
  rw [WordBlock.ofNumbers?, f.bits_setWidth, sub?_ofNat hle (by omega), Option.bind_eq_bind,
    Option.bind_some, narrow?_ofNat s.first_lt_two_pow s.first_lt,
    narrow?_ofNat (by omega) (by omega)]
  rfl

/-! ## Covers -/

/-- Counts of host bits above `m`, for which `start` is not aligned, need not be tried. -/
theorem largestFit_eq_of_not_dvd (hmn : m ≤ n) (h : ∀ k, m < k → k ≤ n → ¬ 2 ^ k ∣ start) :
    largestFit start last n = largestFit start last m := by
  induction n, hmn using Nat.le_induction with
  | base => rfl
  | succ n hmn ih =>
    rw [largestFit, if_neg, ih fun k hmk hkn => h k hmk (Nat.le_succ_of_le hkn)]
    rintro ⟨hmod, -⟩
    exact h (n + 1) (Nat.lt_succ_of_le hmn) (Nat.le_refl _) (Nat.dvd_of_mod_eq_zero hmod)

/-- The end of an aligned block of 128-bit words is a word. -/
theorem add_two_pow_sub_one_lt (hk : k ≤ 128) (hd : 2 ^ k ∣ start) (hs : start < 2 ^ 128) :
    start + (2 ^ k - 1) < 2 ^ 128 := by
  have hend := add_two_pow_le_of_lt hd (Nat.dvd_refl (2 ^ 128)) hk hs
  have hpos := Nat.two_pow_pos k
  omega

/-- From an aligned `start`, `fit?` ends with the largest block that fits. -/
theorem fit?_ofNat (hk : k ≤ 128) (hd : 2 ^ k ∣ start) (hs : start < 2 ^ 128)
    (hl : last < 2 ^ 128) :
    fit? (BitVec.ofNat 128 start) (BitVec.ofNat 128 last) (BitVec.ofNat 32 k) =
      some (BitVec.ofNat 32 (largestFit start last k)) := by
  induction k with
  | zero =>
    rw [fit?, if_neg (by simp)]
    rfl
  | succ k ih =>
    have hpos : 0#32 < BitVec.ofNat 32 (k + 1) :=
      (ofNat_lt_iff (by decide) (by omega)).mpr (Nat.succ_pos k)
    have hend := add_two_pow_sub_one_lt hk hd hs
    have hone := Nat.two_pow_pos (k + 1)
    rw [fit?, if_pos hpos, hostMask?_ofNat hk, Option.bind_eq_bind, Option.bind_some,
      ofNat_or_mask hd, largestFit]
    -- `start` is aligned for all sizes that are tried, so only the end decides.
    by_cases hfit : start + 2 ^ (k + 1) ≤ last + 1
    · rw [if_neg (by rw [ofNat_lt_iff hl hend]; omega),
        if_pos ⟨Nat.mod_eq_zero_of_dvd hd, hfit⟩]
      rfl
    · rw [if_pos (by rw [ofNat_lt_iff hl hend]; omega), if_neg fun h => hfit h.2,
        sub?_ofNat (Nat.le_add_left 1 k) (by omega), Option.pbind_some, Nat.add_sub_cancel]
      exact ih (by omega) (Nat.dvd_trans (Nat.pow_dvd_pow 2 (Nat.le_succ k)) hd)

/-- `fit?` is started at the greatest `k` for which `start` is aligned. -/
theorem exists_aligned_ofNat (f : Family) (start : Nat) :
    ∃ k ≤ f.width, aligned f (BitVec.ofNat 128 start) = BitVec.ofNat 32 k ∧ 2 ^ k ∣ start ∧
      ∀ n, k < n → n ≤ f.width → ¬ 2 ^ n ∣ start := by
  have hwidth := f.width_le
  have hdvd {n : Nat} (hn : n ≤ 128) := two_pow_dvd_iff_le_trailingZeros (n := start) (by decide) hn
  rw [aligned, f.bits_setWidth]
  split
  · next hle =>
    rw [BitVec.le_def, toNat_ofNat_of_lt (by omega)] at hle
    refine ⟨_, hle, by rw [BitVec.ofNat_toNat, BitVec.setWidth_eq],
      (hdvd (by omega)).mpr (Nat.le_refl _), fun n hn hnw h => ?_⟩
    exact Nat.not_le_of_lt hn ((hdvd (by omega)).mp h)
  · next hlt =>
    rw [BitVec.le_def, toNat_ofNat_of_lt (by omega)] at hlt
    exact ⟨f.width, Nat.le_refl _, rfl, (hdvd hwidth).mpr (by omega), fun n hn hnw => by omega⟩

/-- `fit?` finds the host bits of `s.firstBlock`. -/
theorem Span.fit?_words (s : Span f) :
    fit? s.words.first s.words.last (aligned f s.words.first) =
      some (BitVec.ofNat 32 (largestFit s.first s.last f.width)) := by
  obtain ⟨k, hk, haligned, hd, hmax⟩ := exists_aligned_ofNat f s.first
  rw [words, haligned, largestFit_eq_of_not_dvd hk hmax]
  exact fit?_ofNat (Nat.le_trans hk f.width_le) hd s.first_lt_two_pow s.last_lt_two_pow

/-- One round of `cut?` takes `s.firstBlock` and goes on after it. -/
theorem Span.cut?_eq (s : Span f) (out : List WordBlock) :
    cut? f s.words.last s.words.first out =
      if s.first + s.firstSize ≤ s.last then
        cut? f s.words.last (BitVec.ofNat 128 (s.first + s.firstSize)) (out ++ [s.firstBlock.words])
      else some (out ++ [s.firstBlock.words]) := by
  obtain ⟨k, hk⟩ : ∃ k, largestFit s.first s.last f.width = k := ⟨_, rfl⟩
  have hle : k ≤ 128 := hk ▸ Nat.le_trans (largestFit_le ..) f.width_le
  have hd : 2 ^ k ∣ s.first := hk ▸ dvd_largestFit ..
  have hsize : s.firstSize = 2 ^ k := by rw [firstSize, hk]
  have hfit : fit? s.words.first s.words.last (aligned f s.words.first) =
      some (BitVec.ofNat 32 k) := hk ▸ s.fit?_words
  have hblock : WordBlock.ofNumbers? f s.words.first (BitVec.ofNat 32 k) =
      some s.firstBlock.words := hk ▸ s.ofNumbers?_words
  have hstop : s.words.first ||| BitVec.ofNat 128 (2 ^ k - 1) =
      BitVec.ofNat 128 (s.first + (2 ^ k - 1)) := ofNat_or_mask hd
  have hpos := Nat.two_pow_pos k
  have hend := add_two_pow_sub_one_lt hle hd s.first_lt_two_pow
  have hlast := s.last_lt_two_pow
  have hdone : s.words.last ≤ BitVec.ofNat 128 (s.first + (2 ^ k - 1)) ↔
      ¬ s.first + s.firstSize ≤ s.last := by
    rw [words, ofNat_le_iff hlast hend]
    omega
  rw [cut?]
  simp only [hfit, hostMask?_ofNat hle, hstop, hblock, Option.bind_eq_bind, Option.bind_some]
  by_cases hrest : s.first + s.firstSize ≤ s.last
  · have hnext : s.first + (2 ^ k - 1) + 1 = s.first + s.firstSize := by omega
    rw [if_pos hrest, if_neg (mt hdone.mp (not_not.mpr hrest)), add?_ofNat (by omega),
      Option.pbind_some, hnext]
  · rw [if_neg hrest, if_pos (hdone.mpr hrest)]
    rfl

/-- `cut?` ends for every `s`, with the blocks of `s.cover` after those in `out`. -/
theorem Span.cut?_words (s : Span f) (out : List WordBlock) :
    cut? f s.words.last s.words.first out = some (out ++ s.cover.map Block.words) := by
  -- The loop is followed along `cover`, which ends since what is left gets shorter.
  fun_induction cover s generalizing out with
  | case1 s hrest ih =>
    rw [cut?_eq, if_pos hrest]
    refine (ih _).trans ?_
    rw [List.map_cons, List.append_assoc]
    rfl
  | case2 s hrest =>
    rw [cut?_eq, if_neg hrest]
    rfl

end SplitTunnel.Net
