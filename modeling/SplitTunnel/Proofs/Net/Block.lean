import SplitTunnel.Net.AddressSet
import Mathlib.Data.List.Nodup
import Mathlib.Data.List.Pairwise
import Mathlib.Data.List.Perm.Subperm

/-!
# How blocks lie to each other (`SPEC_FULL.md` §3, IP range)

The numbers of a block's addresses run from a multiple of a power of two to the next one, so of two
blocks with a common address one lies inside the other.

* `Block.mem_iff_bounds`: the addresses of a block by their numbers.
* `Block.subset_or_subset_of_mem`: two blocks are nested or apart; `Block.eq_of_subset_of_subset`:
  a block is determined by its addresses.
* `Block.length_le_of_disjoint`: of two lists with the same union, where each block of the second
  lies inside one of the first and those are apart, the first is the shorter one, and it is the
  only one of its length.
-/

namespace SplitTunnel.Net

/-- Below the multiple `y` of `2 ^ h` there is room for all of an aligned run of `2 ^ k` numbers
that starts at `x < y`, if `k ≤ h`. -/
theorem add_two_pow_le_of_lt {x y k h : Nat} (hx : 2 ^ k ∣ x) (hy : 2 ^ h ∣ y) (hkh : k ≤ h)
    (hlt : x < y) : x + 2 ^ k ≤ y := by
  have hy' : 2 ^ k ∣ y := Nat.dvd_trans (Nat.pow_dvd_pow 2 hkh) hy
  have hle : 2 ^ k ≤ y := Nat.le_of_dvd (Nat.zero_lt_of_lt hlt) hy'
  have : x ≤ y - 2 ^ k :=
    Nat.le_of_lt_add_of_dvd (by omega) hx (Nat.dvd_sub hy' (Nat.dvd_refl _))
  omega

namespace Block

variable {b c : Block} {a : Address}

instance : HasSubset Block := ⟨fun b c => ∀ a ∈ b, a ∈ c⟩

theorem dvd_base_value (b : Block) : 2 ^ b.hostBits ∣ b.base.value := b.dvd_base

theorem mem_iff_bounds :
    a ∈ b ↔ a.family = b.family ∧ b.base.value ≤ a.value ∧
      a.value < b.base.value + 2 ^ b.hostBits := by
  have := Nat.two_pow_pos b.hostBits
  rw [AddressSet.mem_block_iff, Span.mem_iff]
  refine and_congr_right fun _ => ?_
  simp only [span]
  omega

instance (a : Address) (b : Block) : Decidable (a ∈ b) := decidable_of_iff' _ mem_iff_bounds

theorem base_mem (b : Block) : b.base ∈ b :=
  mem_iff_bounds.mpr ⟨rfl, Nat.le_refl _, Nat.lt_add_of_pos_right (Nat.two_pow_pos _)⟩

/-- `b` has an address with each number `n` from its first to its last. -/
theorem exists_mem_value (b : Block) {n : Nat} (h₁ : b.base.value ≤ n)
    (h₂ : n < b.base.value + 2 ^ b.hostBits) : ∃ a ∈ b, a.value = n := by
  have hn : n < b.family.size := Nat.lt_of_lt_of_le h₂ b.base_add_le
  exact ⟨⟨b.family, n, hn⟩, mem_iff_bounds.mpr ⟨rfl, h₁, h₂⟩, rfl⟩

/-- Inclusion of `b` in `c` by their ends. -/
theorem subset_iff_bounds :
    b ⊆ c ↔ b.family = c.family ∧ c.base.value ≤ b.base.value ∧
      b.base.value + 2 ^ b.hostBits ≤ c.base.value + 2 ^ c.hostBits := by
  have hb := Nat.two_pow_pos b.hostBits
  constructor
  · intro h
    obtain ⟨hf, hlo, -⟩ := mem_iff_bounds.mp (h _ b.base_mem)
    obtain ⟨a, ha, hv⟩ := b.exists_mem_value (n := b.base.value + 2 ^ b.hostBits - 1)
      (by omega) (by omega)
    obtain ⟨-, -, hhi⟩ := mem_iff_bounds.mp (h a ha)
    exact ⟨hf, hlo, by omega⟩
  · rintro ⟨hf, hlo, hhi⟩ a ha
    obtain ⟨haf, h₁, h₂⟩ := mem_iff_bounds.mp ha
    exact mem_iff_bounds.mpr ⟨haf.trans hf, by omega, by omega⟩

theorem subset_of_mem_of_hostBits_le (hb : a ∈ b) (hc : a ∈ c) (h : b.hostBits ≤ c.hostBits) :
    b ⊆ c := by
  obtain ⟨hfb, hb₁, hb₂⟩ := mem_iff_bounds.mp hb
  obtain ⟨hfc, hc₁, hc₂⟩ := mem_iff_bounds.mp hc
  have hdb := b.dvd_base_value
  have hdc := c.dvd_base_value
  have hhi : b.base.value + 2 ^ b.hostBits ≤ c.base.value + 2 ^ c.hostBits :=
    add_two_pow_le_of_lt hdb (Nat.dvd_add hdc (Nat.dvd_refl _)) h (by omega)
  have hlo : c.base.value ≤ b.base.value :=
    Nat.le_of_lt_add_of_dvd (n := 2 ^ b.hostBits) (by omega)
      (Nat.dvd_trans (Nat.pow_dvd_pow 2 h) hdc) hdb
  exact subset_iff_bounds.mpr ⟨hfb.symm.trans hfc, hlo, hhi⟩

/-- Of two blocks with a common address `a` one lies inside the other. -/
theorem subset_or_subset_of_mem (hb : a ∈ b) (hc : a ∈ c) : b ⊆ c ∨ c ⊆ b := by
  rcases Nat.le_total b.hostBits c.hostBits with h | h
  · exact .inl (subset_of_mem_of_hostBits_le hb hc h)
  · exact .inr (subset_of_mem_of_hostBits_le hc hb h)

/-- Blocks with the same addresses are equal. -/
theorem eq_of_subset_of_subset (h : b ⊆ c) (h' : c ⊆ b) : b = c := by
  obtain ⟨hf, hlo, hhi⟩ := subset_iff_bounds.mp h
  obtain ⟨-, hlo', hhi'⟩ := subset_iff_bounds.mp h'
  have hbase : b.base = c.base := Address.ext hf (Nat.le_antisymm hlo' hlo)
  have hbits : b.hostBits = c.hostBits :=
    (Nat.pow_right_inj (by decide : 1 < 2)).mp (by omega)
  refine Block.ext hbase ?_
  have := b.prefixLength_le
  have := c.prefixLength_le
  simp only [hostBits, family, hbase] at *
  omega

/-! ## Lists of blocks -/

/-- `b` and `c` have no common address. -/
def Disjoint (b c : Block) : Prop := ∀ a, ¬ (a ∈ b ∧ a ∈ c)

theorem Disjoint.symm (h : Disjoint b c) : Disjoint c b := fun a ha => h a ⟨ha.2, ha.1⟩

instance : Std.Symm Disjoint := ⟨fun _ _ => Disjoint.symm⟩

theorem Disjoint.ne (h : Disjoint b c) : b ≠ c := by
  rintro rfl
  exact h b.base ⟨b.base_mem, b.base_mem⟩

/-- Blocks of a list `gs` that is pairwise `Disjoint` are equal if they have a common address `a`.
-/
theorem eq_of_mem_of_mem {gs : List Block} (hd : gs.Pairwise Disjoint) (hb : b ∈ gs) (hc : c ∈ gs)
    (hab : a ∈ b) (hac : a ∈ c) : b = c := by
  by_contra hne
  exact hd.forall hb hc hne a ⟨hab, hac⟩

/-- The exchange argument: each block of `bs` has one of `gs` around it, and none of `gs` is
without a block of `bs` inside. If there are as many of the one as of the other, each of `gs` has
exactly one of `bs` inside, which is then all of it. -/
theorem length_le_of_disjoint {gs bs : List Block} (hd : gs.Pairwise Disjoint)
    (hin : ∀ c ∈ bs, ∃ g ∈ gs, c ⊆ g) (hcov : ∀ g ∈ gs, ∀ a ∈ g, ∃ c ∈ bs, a ∈ c) :
    gs.length ≤ bs.length ∧ (bs.length = gs.length → bs.Perm gs) := by
  have hin' : ∀ c, ∃ g, c ∈ bs → g ∈ gs ∧ c ⊆ g := by
    intro c
    by_cases hc : c ∈ bs
    · obtain ⟨g, hg, hcg⟩ := hin c hc
      exact ⟨g, fun _ => ⟨hg, hcg⟩⟩
    · exact ⟨c, fun h => absurd h hc⟩
  -- Every block of `gs` is around one of `bs`, so there are at least as many of `bs`.
  choose around haround using hin'
  have hback : ∀ g ∈ gs, ∀ c ∈ bs, ∀ a ∈ g, a ∈ c → around c = g := fun g hg c hc a hag hac =>
    eq_of_mem_of_mem hd (haround c hc).1 hg ((haround c hc).2 a hac) hag
  have hnd : gs.Nodup := hd.imp Disjoint.ne
  have hsub : gs.Subperm (bs.map around) := by
    refine hnd.subperm fun g hg => ?_
    obtain ⟨c, hc, hac⟩ := hcov g hg g.base g.base_mem
    exact List.mem_map.mpr ⟨c, hc, hback g hg c hc _ g.base_mem hac⟩
  refine ⟨by simpa using hsub.length_le, fun hlen => ?_⟩
  -- If the numbers are equal, `around` tells the blocks of `bs` apart. Each then has all addresses
  -- of the block around it, for no other one has any of them.
  have hperm : gs.Perm (bs.map around) := hsub.perm_of_length_le (by simp [hlen])
  have hinj : ∀ c ∈ bs, ∀ c' ∈ bs, around c = around c' → c = c' :=
    fun c hc c' hc' h =>
      List.inj_on_of_nodup_map (hperm.nodup_iff.mp hnd) hc hc' h
  have hid : ∀ c ∈ bs, around c = c := by
    intro c hc
    obtain ⟨hg, hcg⟩ := haround c hc
    refine eq_of_subset_of_subset (fun a ha => ?_) hcg
    obtain ⟨c', hc', hac'⟩ := hcov _ hg a ha
    have : c' = c := hinj c' hc' c hc (hback _ hg c' hc' a ha hac')
    exact this ▸ hac'
  have hmap : bs.map around = bs := by
    rw [List.map_congr_left hid, List.map_id']
  rw [hmap] at hperm
  exact hperm.symm

end Block

end SplitTunnel.Net
