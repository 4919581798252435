import SplitTunnel.Proofs.Net.Word.Block

/-!
# How a span is cut (`SPEC_FULL.md` §4.1, `subnets`)

At each place the first block is limited by one of two things: its start is aligned for no larger
one, or the span is too short. As long as it is the start, the next start is aligned for a larger
block than the last one, so the blocks grow. Once it is the end, what is left is shorter than a
block of the size just taken, so from there on the blocks shrink.

* `Span.pairwise_hostBits_of_lt`: less than an aligned block is cut into blocks that shrink.
* `Span.rest_cases`: what is left after the first block shrinks, or starts at a place that is
  aligned for a larger one.
* `Span.exists_up_down`, `Span.length_cover_add_two_le`: the blocks grow and then shrink, and there
  are less than two for each bit of an address.
* `Span.length_cover_of_two_pow`: the span without the family's first and last address has most.
* `Span.cover_unimodal`: the loop that cuts a span ends with such a list.
-/

namespace SplitTunnel.Net

/-- Numbers `l` that fall from below `k` are at most `k` many. -/
theorem length_le_of_pairwise_gt {k : Nat} {l : List Nat} (h : (k :: l).Pairwise (· > ·)) :
    l.length ≤ k := by
  induction l generalizing k with
  | nil => exact Nat.zero_le _
  | cons n rest ih =>
    obtain ⟨hk, hrest⟩ := List.pairwise_cons.mp h
    have hlt : n < k := hk n (by simp)
    have hle := ih hrest
    rw [List.length_cons]
    omega

/-- An odd multiple `n` of `2 ^ k` becomes an even one when `2 ^ k` is added. -/
theorem two_pow_succ_dvd_add {k n : Nat} (hd : 2 ^ k ∣ n) (hno : ¬ 2 ^ (k + 1) ∣ n) :
    2 ^ (k + 1) ∣ n + 2 ^ k := by
  obtain ⟨m, rfl⟩ := hd
  have hodd : m % 2 = 1 := by
    by_contra heven
    obtain ⟨j, rfl⟩ : 2 ∣ m := Nat.dvd_of_mod_eq_zero (by omega)
    exact hno ⟨j, by rw [Nat.pow_succ, Nat.mul_assoc]⟩
  obtain ⟨j, hj⟩ : 2 ∣ m + 1 := Nat.dvd_of_mod_eq_zero (by omega)
  exact ⟨j, by rw [← Nat.mul_succ, Nat.succ_eq_add_one, hj, Nat.pow_succ, Nat.mul_assoc]⟩

namespace Span

variable {f : Family} {s : Span f} {k : Nat}

/-- What is left of `s` after `s.firstBlock`. -/
abbrev rest (s : Span f) (h : s.first + s.firstSize ≤ s.last) : Span f :=
  ⟨s.first + s.firstSize, s.last, h, s.last_lt⟩

theorem firstSize_eq (s : Span f) : s.firstSize = 2 ^ s.firstBlock.hostBits := by
  rw [hostBits_firstBlock, firstSize]

theorem dvd_first (s : Span f) : 2 ^ s.firstBlock.hostBits ∣ s.first := s.firstBlock.dvd_base_value

theorem hostBits_lt_width (h : s.first + s.firstSize ≤ s.last) :
    s.firstBlock.hostBits < f.width := by
  have hlast : s.last < 2 ^ f.width := s.last_lt
  rw [firstSize_eq] at h
  exact (Nat.pow_lt_pow_iff_right (by decide : 1 < 2)).mp (by omega)

/-- What keeps `s.firstBlock` from being larger: where it starts, or where `s` ends. -/
theorem not_dvd_or_lt (h : s.firstBlock.hostBits < f.width) :
    ¬ 2 ^ (s.firstBlock.hostBits + 1) ∣ s.first ∨
      s.last + 1 < s.first + 2 ^ (s.firstBlock.hostBits + 1) := by
  by_contra hno
  obtain ⟨hd, hle⟩ := not_or.mp hno
  have hfit := le_largestFit h (not_not.mp hd) (Nat.le_of_not_lt hle)
  rw [← hostBits_firstBlock] at hfit
  omega

theorem dvd_rest_first (s : Span f) (h : s.first + s.firstSize ≤ s.last) :
    2 ^ s.firstBlock.hostBits ∣ (s.rest h).first :=
  Nat.dvd_add s.dvd_first (s.firstSize_eq ▸ Nat.dvd_refl _)

/-- Where the end limits `s.firstBlock`, another block of its size is already too large. -/
theorem rest_lt_of_lt (h : s.first + s.firstSize ≤ s.last)
    (hend : s.last + 1 < s.first + 2 ^ (s.firstBlock.hostBits + 1)) :
    (s.rest h).last + 1 < (s.rest h).first + 2 ^ s.firstBlock.hostBits := by
  have hsize := s.firstSize_eq
  rw [Nat.two_pow_succ] at hend
  dsimp only
  omega

theorem hostBits_lt_of_lt (h : s.last + 1 < s.first + 2 ^ k) : s.firstBlock.hostBits < k := by
  have hsize := s.firstSize_eq
  have hend := s.first_add_firstSize_le
  exact (Nat.pow_lt_pow_iff_right (by decide : 1 < 2)).mp (by omega)

/-- A span `s` that is shorter than a block of `2 ^ k` numbers at its start is cut into blocks that
are smaller than that and shrink. -/
theorem pairwise_hostBits_of_lt (hd : 2 ^ k ∣ s.first) (hlt : s.last + 1 < s.first + 2 ^ k) :
    (k :: s.cover.map Block.hostBits).Pairwise (· > ·) := by
  have hbits := hostBits_lt_of_lt hlt
  fun_induction cover s generalizing k with
  | case1 s hrest ih =>
    -- the start is aligned for more, so it is the end that limits the block
    have hend : s.last + 1 < s.first + 2 ^ (s.firstBlock.hostBits + 1) :=
      (not_dvd_or_lt (hostBits_lt_width hrest)).resolve_left fun hno =>
        hno (Nat.dvd_trans (Nat.pow_dvd_pow 2 hbits) hd)
    have hnext := rest_lt_of_lt hrest hend
    have hshrink := ih (s.dvd_rest_first hrest) hnext (hostBits_lt_of_lt hnext)
    exact hshrink.cons_cons_of_trans hbits
  | case2 s hrest => simpa using hbits

/-- `s.rest h` is either shorter than another block of the size of `s.firstBlock`, or starts at a
place that is aligned for a larger one. -/
theorem rest_cases (hd : 2 ^ k ∣ s.first) (h : s.first + s.firstSize ≤ s.last) :
    (s.rest h).last + 1 < (s.rest h).first + 2 ^ s.firstBlock.hostBits ∨
      k ≤ s.firstBlock.hostBits ∧ 2 ^ (s.firstBlock.hostBits + 1) ∣ (s.rest h).first := by
  rcases not_dvd_or_lt (hostBits_lt_width h) with hno | hend
  · refine .inr ⟨?_, ?_⟩
    · by_contra hlt
      exact hno (Nat.dvd_trans (Nat.pow_dvd_pow 2 (Nat.lt_of_not_le hlt)) hd)
    · have hnext := two_pow_succ_dvd_add s.dvd_first hno
      rwa [← firstSize_eq] at hnext
  · exact .inl (rest_lt_of_lt h hend)

/-- The blocks of `s.cover` grow and then shrink. Those that grow, `up`, are at least as large as
`s.first` is aligned for. -/
theorem exists_up_down (hd : 2 ^ k ∣ s.first) :
    ∃ up down, s.cover.map Block.hostBits = up ++ down ∧ (∀ n ∈ up, k ≤ n) ∧
      up.Pairwise (· < ·) ∧ down.Pairwise (· > ·) := by
  fun_induction cover s generalizing k with
  | case1 s hrest ih =>
    -- Blocks grow as long as the starts limit them; once the end does, all of the rest shrinks.
    rcases rest_cases hd hrest with hend | ⟨hle, hnext⟩
    · have hdown := pairwise_hostBits_of_lt (s.dvd_rest_first hrest) hend
      exact ⟨[], _, rfl, List.forall_mem_nil _, .nil, hdown⟩
    · obtain ⟨up, down, heq, hup, hgrow, hshrink⟩ := ih hnext
      refine ⟨s.firstBlock.hostBits :: up, down, ?_, ?_, ?_, hshrink⟩
      · rw [List.map_cons, heq, List.cons_append]
      · intro n hn
        rcases List.mem_cons.mp hn with rfl | hn
        · exact hle
        · have := hup n hn
          omega
      · exact List.pairwise_cons.mpr ⟨fun n hn => hup n hn, hgrow⟩
  | case2 s hrest => exact ⟨[], _, rfl, List.forall_mem_nil _, .nil, List.pairwise_singleton ..⟩

/-! ## How many blocks -/

theorem length_cover_eq_succ (h : s.first + s.firstSize ≤ s.last) :
    s.cover.length = (s.rest h).cover.length + 1 := by
  rw [cover, dif_pos h, List.length_cons]

theorem length_cover_eq_one (h : ¬ s.first + s.firstSize ≤ s.last) : s.cover.length = 1 := by
  rw [cover, dif_neg h, List.length_singleton]

theorem length_cover_le_of_lt (hd : 2 ^ k ∣ s.first) (hlt : s.last + 1 < s.first + 2 ^ k) :
    s.cover.length ≤ k := by
  have hle := length_le_of_pairwise_gt (pairwise_hostBits_of_lt hd hlt)
  rwa [List.length_map] at hle

theorem one_lt_width (f : Family) : 1 < f.width := by cases f <;> decide

theorem lt_width_of_two_pow_le {n : Nat} (h : 2 ^ k ≤ n) (hn : n < f.size) : k < f.width :=
  (Nat.pow_lt_pow_iff_right (by decide : 1 < 2)).mp (Nat.lt_of_le_of_lt h hn)

/-- Of the sizes that blocks can grow through, the `k` that `s.first` is not aligned for are left
out, and then come those that they can shrink through. -/
theorem length_cover_add_le (hd : 2 ^ k ∣ s.first) (hpos : 0 < s.first) :
    s.cover.length + k + 2 ≤ 2 * f.width := by
  have hwidth := one_lt_width f
  have hk : k < f.width := lt_width_of_two_pow_le (Nat.le_of_dvd hpos hd) s.first_lt
  fun_induction cover s generalizing k with
  | case1 s hrest ih =>
    have hsize := s.firstSize_eq
    show (s.rest hrest).cover.length + 1 + k + 2 ≤ _
    rcases rest_cases hd hrest with hend | ⟨hle, hnext⟩
    · have hlength := length_cover_le_of_lt (s.dvd_rest_first hrest) hend
      have hbits : s.firstBlock.hostBits + 1 < f.width := by
        have hblock := Nat.le_of_dvd hpos s.dvd_first
        refine lt_width_of_two_pow_le (n := s.last) ?_ s.last_lt
        rw [Nat.two_pow_succ]
        omega
      omega
    · have hpos' : 0 < (s.rest hrest).first := by
        dsimp only
        omega
      have hlength : (s.rest hrest).cover.length + (s.firstBlock.hostBits + 1) + 2 ≤ _ :=
        ih hnext hpos' (lt_width_of_two_pow_le (Nat.le_of_dvd hpos' hnext) (s.rest hrest).first_lt)
      omega
  | case2 s hrest =>
    rw [List.length_singleton]
    omega

/-- `s.cover` has less than two blocks for each bit of an address. -/
theorem length_cover_add_two_le (s : Span f) : s.cover.length + 2 ≤ 2 * f.width := by
  have hwidth := one_lt_width f
  rcases Nat.eq_zero_or_pos s.first with hzero | hpos
  · by_cases hrest : s.first + s.firstSize ≤ s.last
    · -- a block at the family's first address is aligned for any size, so the end limits it
      rcases rest_cases (k := s.firstBlock.hostBits + 1) (hzero ▸ Nat.dvd_zero _) hrest with
        hend | ⟨hle, -⟩
      · have hlength := length_cover_le_of_lt (s.dvd_rest_first hrest) hend
        have hbits := hostBits_lt_width hrest
        rw [length_cover_eq_succ hrest]
        omega
      · omega
    · rw [length_cover_eq_one hrest]
      omega
  · exact length_cover_add_le (k := 0) (Nat.one_dvd _) hpos

/-! ## The most blocks -/

theorem firstSize_eq_two_pow (hk : k ≤ f.width) (hd : 2 ^ k ∣ s.first)
    (hle : s.first + 2 ^ k ≤ s.last + 1)
    (hno : ¬ 2 ^ (k + 1) ∣ s.first ∨ s.last + 1 < s.first + 2 ^ (k + 1)) : s.firstSize = 2 ^ k := by
  rw [firstSize_eq]
  have hlow : k ≤ s.firstBlock.hostBits := hostBits_firstBlock s ▸ le_largestFit hk hd hle
  have hhigh : ¬ k + 1 ≤ s.firstBlock.hostBits := by
    intro hlarger
    have hpow := Nat.pow_dvd_pow 2 hlarger
    rcases hno with hno | hno
    · exact hno (Nat.dvd_trans hpow s.dvd_first)
    · have hend := s.first_add_firstSize_le
      have := Nat.le_of_dvd (Nat.two_pow_pos _) hpow
      rw [firstSize_eq] at hend
      omega
  rw [show s.firstBlock.hostBits = k by omega]

/-- Up to the last address but one, each block takes half of what is left and one more: `k` blocks
for `2 ^ k` addresses. -/
theorem length_cover_of_top (hk : 1 ≤ k) (hw : k < f.width)
    (hfirst : s.first = f.size - 2 ^ k) (hlast : s.last = f.size - 2) : s.cover.length = k := by
  induction k, hk using Nat.le_induction generalizing s with
  | base =>
    have hsize : 0 < s.firstSize := Nat.two_pow_pos _
    refine length_cover_eq_one ?_
    omega
  | succ k hk ih =>
    have hpow : 2 ^ (k + 1) < f.size := Nat.pow_lt_pow_right (by decide) hw
    have hpos : 2 ^ 1 ≤ 2 ^ k := Nat.pow_le_pow_right (by decide) hk
    have htwo := Nat.two_pow_succ k
    have hsize : s.firstSize = 2 ^ k := by
      refine firstSize_eq_two_pow (by omega) ?_ (by omega) (.inr (by omega))
      rw [hfirst]
      exact Nat.dvd_sub (Nat.pow_dvd_pow 2 (by omega)) (Nat.pow_dvd_pow 2 (Nat.le_succ k))
    have hrest : s.first + s.firstSize ≤ s.last := by omega
    have hnext : (s.rest hrest).first = f.size - 2 ^ k := by
      show s.first + s.firstSize = _
      omega
    rw [length_cover_eq_succ hrest, ih (by omega) hnext hlast]

/-- From `2 ^ k` on, each block is as large as its start. -/
theorem length_cover_of_two_pow {j : Nat} (hj : k + j + 1 = f.width) (hfirst : s.first = 2 ^ k)
    (hlast : s.last = f.size - 2) : s.cover.length = j + (f.width - 1) := by
  have hwidth := one_lt_width f
  induction j generalizing k s with
  | zero =>
    have htwo : 2 ^ f.width = 2 ^ k + 2 ^ k := by rw [← hj, Nat.add_zero, Nat.two_pow_succ]
    rw [length_cover_of_top (k := k) (by omega) (by omega)
      (by rw [hfirst, Family.size, htwo, Nat.add_sub_cancel]) hlast]
    omega
  -- The first block is as large as its start, so the next start is twice that.
  | succ j ih =>
    have hpow : 2 ^ (k + 1 + 1) ≤ f.size := Nat.pow_le_pow_right (by decide) (by omega)
    have htwo := Nat.two_pow_succ k
    have hfour := Nat.two_pow_succ (k + 1)
    have hpos := Nat.two_pow_pos k
    have hsize : s.firstSize = 2 ^ k := by
      refine firstSize_eq_two_pow (by omega) (hfirst ▸ Nat.dvd_refl _) (by omega) (.inl ?_)
      rw [hfirst]
      exact fun h => absurd (Nat.le_of_dvd hpos h) (by omega)
    have hrest : s.first + s.firstSize ≤ s.last := by omega
    have hnext : (s.rest hrest).first = 2 ^ (k + 1) := by
      show s.first + s.firstSize = _
      omega
    rw [length_cover_eq_succ hrest, ih (k := k + 1) (by omega) hnext hlast]
    omega

/-- A span `s` that is cut into as many blocks as any. -/
theorem exists_length_cover_eq (f : Family) : ∃ s : Span f, s.cover.length + 2 = 2 * f.width := by
  have hwidth := one_lt_width f
  have hfour : 2 ^ 2 ≤ f.size := Nat.pow_le_pow_right (by decide) hwidth
  refine ⟨⟨1, f.size - 2, by omega, by omega⟩, ?_⟩
  rw [length_cover_of_two_pow (k := 0) (j := f.width - 1) (by omega) rfl rfl]
  omega

/-! ## One block after the other -/

theorem last_span_firstBlock (s : Span f) :
    s.firstBlock.span.last + 1 = s.first + s.firstSize := by
  have hpos := Nat.two_pow_pos s.firstBlock.hostBits
  rw [firstSize_eq]
  show s.first + (2 ^ s.firstBlock.hostBits - 1) + 1 = _
  omega

theorem head?_cover (s : Span f) : s.cover.head? = some s.firstBlock := by
  rw [cover]
  split <;> rfl

theorem isChain_cover (s : Span f) :
    s.cover.IsChain fun b c => c.span.first = b.span.last + 1 := by
  fun_induction cover s with
  | case1 s hrest ih =>
    refine List.isChain_cons.mpr ⟨fun b hb => ?_, ih⟩
    rw [head?_cover (s.rest hrest)] at hb
    cases hb
    exact s.last_span_firstBlock.symm
  | case2 s hrest => exact List.isChain_singleton ..

theorem getLast?_cover (s : Span f) : s.cover.getLast?.map (·.span.last) = some s.last := by
  fun_induction cover s with
  | case1 s hrest ih =>
    obtain ⟨b, hb, hlast⟩ := Option.map_eq_some_iff.mp ih
    rw [List.getLast?_cons, hb]
    exact congrArg some hlast
  | case2 s hrest =>
    have hend := s.last_span_firstBlock
    have hle := s.first_add_firstSize_le
    exact congrArg some (show s.firstBlock.span.last = s.last by omega)

theorem cover_ne_nil (s : Span f) : s.cover ≠ [] :=
  List.ne_nil_of_mem (List.mem_of_head? s.head?_cover)

/-- The larger a block of `s.cover`, the shorter its prefix: the prefix lengths fall and then rise.
-/
theorem exists_down_up (s : Span f) :
    ∃ down up, s.cover.map Block.prefixLength = down ++ up ∧
      down.Pairwise (· > ·) ∧ up.Pairwise (· < ·) := by
  obtain ⟨grow, shrink, heq, -, hgrow, hshrink⟩ := exists_up_down (k := 0) (Nat.one_dvd s.first)
  have hlength : s.cover.map Block.prefixLength =
      (s.cover.map Block.hostBits).map (f.width - ·) := by
    rw [List.map_map]
    refine List.map_congr_left fun b hb => ?_
    have hle := b.prefixLength_le
    show b.prefixLength = f.width - (b.family.width - b.prefixLength)
    rw [← family_of_mem_cover hb, Block.family]
    omega
  have hbits : ∀ n ∈ grow ++ shrink, n ≤ f.width := by
    intro n hn
    obtain ⟨b, hb, rfl⟩ := List.mem_map.mp (heq ▸ hn)
    exact family_of_mem_cover hb ▸ Nat.sub_le ..
  rw [heq, List.map_append] at hlength
  refine ⟨_, _, hlength, List.pairwise_map.mpr ?_, List.pairwise_map.mpr ?_⟩
  · refine hgrow.imp_of_mem fun hm hn hlt => ?_
    have := hbits _ (List.mem_append_left _ hn)
    omega
  · refine hshrink.imp_of_mem fun hm hn hgt => ?_
    have := hbits _ (List.mem_append_right _ hm)
    omega

/-- `cut?` ends for every span `s`, and puts after the blocks that are there at least one more. The
first of them starts where the span does, each other one right after the one before it, all at
places that are aligned for their lengths, and the last ends where the span does. Their lengths fall
and then rise, and there are at most two less than two for each bit of an address, which is reached
in each family. -/
theorem cover_unimodal (f : Family) :
    (∀ s : Span f,
      (∀ out, cut? f s.words.last s.words.first out = some (out ++ s.cover.map Block.words)) ∧
      s.cover ≠ [] ∧
      (∀ b ∈ s.cover, b.family = f ∧ 2 ^ (f.width - b.prefixLength) ∣ b.span.first) ∧
      s.cover.head?.map (·.span.first) = some s.first ∧
      (s.cover.IsChain fun b c => c.span.first = b.span.last + 1) ∧
      s.cover.getLast?.map (·.span.last) = some s.last ∧
      (∃ down up, s.cover.map Block.prefixLength = down ++ up ∧
        down.Pairwise (· > ·) ∧ up.Pairwise (· < ·)) ∧
      s.cover.length ≤ 2 * f.width - 2) ∧
    ∃ s : Span f, s.cover.length = 2 * f.width - 2 := by
  refine ⟨fun s => ⟨s.cut?_words, s.cover_ne_nil, fun b hb => ?_, ?_, s.isChain_cover,
    s.getLast?_cover, s.exists_down_up, Nat.le_sub_of_add_le s.length_cover_add_two_le⟩, ?_⟩
  · have hf := family_of_mem_cover hb
    exact ⟨hf, hf ▸ b.dvd_base⟩
  · rw [head?_cover]
    rfl
  · obtain ⟨s, hs⟩ := exists_length_cover_eq f
    exact ⟨s, by omega⟩

/-- The IPv4 addresses from `1` to `2 ^ 32 - 2`, which leave out the first and the last one. -/
theorem cover_unimodal_inner :
    ∃ s : Span .ipv4, s.first = 1 ∧ s.last = 2 ^ 32 - 2 ∧ s.firstBlock ∈ s.cover ∧
      s.firstBlock.family = .ipv4 ∧ s.cover.length ≤ 62 ∧
      ∃ b ∈ s.cover, b.span.last = 2 ^ 32 - 2 := by
  let s : Span .ipv4 := ⟨1, 2 ^ 32 - 2, by decide, by decide⟩
  have hfirst : s.firstBlock ∈ s.cover := List.mem_of_head? s.head?_cover
  obtain ⟨-, -, hblock, -, -, hlast, -, hlength⟩ := (cover_unimodal .ipv4).1 s
  obtain ⟨b, hb, hend⟩ := Option.map_eq_some_iff.mp hlast
  exact ⟨s, rfl, rfl, hfirst, (hblock _ hfirst).1, hlength, b, List.mem_of_getLast? hb, hend⟩

end Span

end SplitTunnel.Net
