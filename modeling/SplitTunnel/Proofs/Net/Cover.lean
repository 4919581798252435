import SplitTunnel.Net.Cover
import SplitTunnel.Proofs.Net.Block

/-!
# The cover of a set is its shortest list of blocks (`SPEC_FULL.md` §4.1, `subnets`)

`Span.cover` takes at each place the largest block that fits. Every block inside the span lies
inside one of those, and because runs are kept apart, every block inside a set lies inside one run.
So the blocks of a set are its largest ones, and no list of blocks with the same union is shorter.

* `Span.mem_cover`, `Span.exists_subset_cover`: the addresses of a span's cover, and the blocks
  inside it.
* `Runs.exists_span_of_forall_mem`: numbers in a row are in one run.
* `AddressSet.mem_subnets`, `AddressSet.pairwise_subnets`: the addresses of a set's blocks, and
  their order.
* `IsLeastCover`, `AddressSet.isLeastCover_subnets`: what a least cover is, and that a set's blocks
  are one.
* `AddressSet.subnets_minimal`: the blocks are in order, apart, have the set's addresses, and are
  the only shortest list that has.
-/

namespace SplitTunnel.Net

/-- All addresses of `b` come before those of `c`. -/
def Block.Before (b c : Block) : Prop :=
  b.family.rank < c.family.rank ∨
    b.family = c.family ∧ b.base.value + 2 ^ b.hostBits ≤ c.base.value

theorem Block.Before.disjoint {b c : Block} (h : b.Before c) : b.Disjoint c := by
  rintro a ⟨hb, hc⟩
  obtain ⟨hfb, -, hb₂⟩ := mem_iff_bounds.mp hb
  obtain ⟨hfc, hc₁, -⟩ := mem_iff_bounds.mp hc
  rcases h with h | ⟨-, h⟩
  · rw [← hfb, ← hfc] at h
    exact Nat.lt_irrefl _ h
  · omega

/-- The blocks of `bs` are in order and apart and have the addresses with `p`. No list with the same
addresses is shorter, and one of the same length has the same blocks. -/
structure IsLeastCover (bs : List Block) (p : Address → Prop) : Prop where
  ordered : bs.Pairwise Block.Before
  covers : ∀ a, (∃ b ∈ bs, a ∈ b) ↔ p a
  least : ∀ cs : List Block, (∀ a, (∃ c ∈ cs, a ∈ c) ↔ p a) →
    bs.length ≤ cs.length ∧ (cs.length = bs.length → cs.Perm bs)

namespace IsLeastCover

variable {bs : List Block} {p q : Address → Prop} {b : Block}

theorem congr (h : IsLeastCover bs p) (hpq : ∀ a, p a ↔ q a) : IsLeastCover bs q :=
  (funext fun a => propext (hpq a) : p = q) ▸ h

theorem of_mem (h : IsLeastCover bs p) (hb : b ∈ bs) : p b.base :=
  (h.covers b.base).mp ⟨b, hb, b.base_mem⟩

/-- The least cover of no address is `[]`. -/
theorem eq_nil (h : IsLeastCover bs p) (hp : ∀ a, ¬ p a) : bs = [] :=
  List.eq_nil_iff_forall_not_mem.mpr fun b hb => hp b.base (h.of_mem hb)

end IsLeastCover

/-! ## One span -/

namespace Span

variable {f : Family} {s : Span f} {b : Block} {a : Address}

theorem hostBits_firstBlock (s : Span f) :
    s.firstBlock.hostBits = largestFit s.first s.last f.width :=
  Nat.sub_sub_self (largestFit_le ..)

theorem first_add_firstSize_le (s : Span f) : s.first + s.firstSize ≤ s.last + 1 :=
  add_largestFit_le _ s.first_le_last

theorem mem_firstBlock :
    a ∈ s.firstBlock ↔ a.family = f ∧ s.first ≤ a.value ∧ a.value < s.first + s.firstSize := by
  rw [Block.mem_iff_bounds, hostBits_firstBlock]
  exact Iff.rfl

/-- A block `b` inside a span `s` that starts in `s.firstBlock` is inside that one: it starts
either where the span does, so it is not larger than the largest that fits there, or later, so it is
not larger than what its start allows. -/
theorem subset_firstBlock (hf : b.family = f) (hlo : s.first ≤ b.base.value)
    (hhi : b.base.value + 2 ^ b.hostBits ≤ s.last + 1)
    (hlt : b.base.value < s.first + s.firstSize) : b ⊆ s.firstBlock := by
  have hk : b.hostBits ≤ f.width := hf ▸ Nat.sub_le ..
  have hds : 2 ^ largestFit s.first s.last f.width ∣ s.first := dvd_largestFit ..
  have hdb := b.dvd_base_value
  -- A larger block would start where the span does, and then `largestFit` would have found it.
  have hle : b.hostBits ≤ largestFit s.first s.last f.width := by
    by_contra hgt
    have hdb' : 2 ^ largestFit s.first s.last f.width ∣ b.base.value :=
      Nat.dvd_trans (Nat.pow_dvd_pow 2 (Nat.le_of_not_le hgt)) hdb
    have hsame : b.base.value = s.first :=
      Nat.le_antisymm (Nat.le_of_lt_add_of_dvd hlt hdb' hds) hlo
    exact hgt (le_largestFit hk (hsame ▸ hdb) (hsame ▸ hhi))
  have hend : b.base.value + 2 ^ b.hostBits ≤ s.first + s.firstSize :=
    add_two_pow_le_of_lt hdb (Nat.dvd_add hds (Nat.dvd_refl _)) hle hlt
  refine Block.subset_iff_bounds.mpr ⟨hf, hlo, ?_⟩
  rw [hostBits_firstBlock]
  exact hend

theorem family_of_mem_cover (h : b ∈ s.cover) : b.family = f := by
  fun_induction cover s with
  | case1 s hrest ih =>
    rcases List.mem_cons.mp h with rfl | h
    · rfl
    · exact ih h
  | case2 s hrest =>
    rw [List.mem_singleton.mp h]
    rfl

/-- `s.cover` has the addresses of the span `s`. -/
theorem mem_cover : (∃ b ∈ s.cover, a ∈ b) ↔ a.family = f ∧ a.value ∈ s := by
  fun_induction cover s with
  | case1 s hrest ih =>
    simp only [List.mem_cons, exists_eq_or_imp, ih, mem_firstBlock, ← and_or_left]
    refine and_congr_right fun _ => ?_
    simp only [mem_iff]
    omega
  | case2 s hrest =>
    have := s.first_add_firstSize_le
    simp only [List.mem_singleton, exists_eq_left, mem_firstBlock]
    refine and_congr_right fun _ => ?_
    simp only [mem_iff]
    omega

theorem first_le_of_mem_cover (h : b ∈ s.cover) : s.first ≤ b.base.value :=
  (mem_cover.mp ⟨b, h, b.base_mem⟩).2.1

theorem base_add_le_of_mem_cover (h : b ∈ s.cover) :
    b.base.value + 2 ^ b.hostBits ≤ s.last + 1 := by
  have hpos := Nat.two_pow_pos b.hostBits
  obtain ⟨a, ha, hv⟩ := b.exists_mem_value (n := b.base.value + 2 ^ b.hostBits - 1)
    (by omega) (by omega)
  have := (mem_cover.mp ⟨b, h, ha⟩).2.2
  omega

/-- The blocks of `s.cover` come one after another. -/
theorem pairwise_cover (s : Span f) : s.cover.Pairwise Block.Before := by
  fun_induction cover s with
  | case1 s hrest ih =>
    refine List.pairwise_cons.mpr ⟨fun b hb => .inr ⟨(family_of_mem_cover hb).symm, ?_⟩, ih⟩
    rw [hostBits_firstBlock]
    exact first_le_of_mem_cover hb
  | case2 s hrest => exact List.pairwise_singleton ..

/-- A block `b` inside the span `s` is inside a block of `s.cover`. -/
theorem exists_subset_cover (hf : b.family = f) (hlo : s.first ≤ b.base.value)
    (hhi : b.base.value + 2 ^ b.hostBits ≤ s.last + 1) : ∃ g ∈ s.cover, b ⊆ g := by
  fun_induction cover s with
  | case1 s hrest ih =>
    by_cases hlt : b.base.value < s.first + s.firstSize
    · exact ⟨s.firstBlock, by simp, subset_firstBlock hf hlo hhi hlt⟩
    · obtain ⟨g, hg, hbg⟩ := ih (Nat.le_of_not_lt hlt) hhi
      exact ⟨g, by simp [hg], hbg⟩
  | case2 s hrest =>
    have := Nat.two_pow_pos b.hostBits
    exact ⟨s.firstBlock, by simp, subset_firstBlock hf hlo hhi (by omega)⟩

end Span

/-! ## One family -/

/-- Neither of `s` and `t` touches the other. -/
def Span.Apart {f : Family} (s t : Span f) : Prop := s.Before t ∨ t.Before s

instance {f : Family} : Std.Symm (Span.Apart (f := f)) := ⟨fun _ _ => Or.symm⟩

namespace Runs

variable {f : Family} {r : Runs f} {a : Address} {b : Block}

/-- Two spans `s` and `t` of the runs `r` are equal if `s` touches a number `n` of `t`: two runs
have a missing number between them. -/
theorem eq_of_touches {s t : Span f} {n : Nat} (hs : s ∈ r.spans) (ht : t ∈ r.spans) (hn : n ∈ t)
    (hlo : s.first ≤ n + 1) (hhi : n ≤ s.last + 1) : s = t := by
  by_contra hne
  have hapart : r.spans.Pairwise Span.Apart := r.separated.imp .inl
  obtain ⟨hn₁, hn₂⟩ := Span.mem_iff.mp hn
  rcases hapart.forall hs ht hne with hst | hts
  · simp only [Span.Before] at hst
    omega
  · simp only [Span.Before] at hts
    omega

/-- `count` numbers from `lo` on that are all in `r` are in one span of `r`: the number after a span
is in none. -/
theorem exists_span_of_forall_mem {lo count : Nat} (hc : 0 < count)
    (h : ∀ n, lo ≤ n → n < lo + count → n ∈ r) :
    ∃ s ∈ r.spans, s.first ≤ lo ∧ lo + count ≤ s.last + 1 := by
  obtain ⟨s, hs, hlo, hhi⟩ := h lo (Nat.le_refl _) (by omega)
  refine ⟨s, hs, hlo, ?_⟩
  by_contra hgt
  -- If the span ended early, the number after it would be in one that touches it.
  obtain ⟨t, ht, hnext⟩ := h (s.last + 1) (by omega) (by omega)
  have hst : s = t := eq_of_touches hs ht hnext (by omega) (Nat.le_refl _)
  subst hst
  exact Nat.not_succ_le_self _ hnext.2

theorem mem_cover_iff : b ∈ r.cover ↔ ∃ s ∈ r.spans, b ∈ s.cover := List.mem_flatMap

theorem family_of_mem_cover (h : b ∈ r.cover) : b.family = f := by
  obtain ⟨s, -, hb⟩ := mem_cover_iff.mp h
  exact Span.family_of_mem_cover hb

theorem mem_cover : (∃ b ∈ r.cover, a ∈ b) ↔ a.family = f ∧ a.value ∈ r := by
  constructor
  · rintro ⟨b, hb, hab⟩
    obtain ⟨s, hs, hbs⟩ := mem_cover_iff.mp hb
    obtain ⟨hf, hv⟩ := Span.mem_cover.mp ⟨b, hbs, hab⟩
    exact ⟨hf, s, hs, hv⟩
  · rintro ⟨hf, s, hs, hv⟩
    obtain ⟨b, hb, hab⟩ := Span.mem_cover.mpr ⟨hf, hv⟩
    exact ⟨b, mem_cover_iff.mpr ⟨s, hs, hb⟩, hab⟩

theorem pairwise_cover (r : Runs f) : r.cover.Pairwise Block.Before := by
  refine List.pairwise_flatMap.mpr ⟨fun s _ => Span.pairwise_cover s, ?_⟩
  refine r.separated.imp fun {s t} hst b hb c hc => .inr ?_
  have h₁ := Span.base_add_le_of_mem_cover hb
  have h₂ := Span.first_le_of_mem_cover hc
  have h₃ : s.last + 1 < t.first := hst
  exact ⟨(Span.family_of_mem_cover hb).trans (Span.family_of_mem_cover hc).symm, by omega⟩

/-- A block `b` inside the runs `r` is inside a block of `r.cover`. -/
theorem exists_subset_cover (hf : b.family = f) (h : ∀ a ∈ b, a.value ∈ r) :
    ∃ g ∈ r.cover, b ⊆ g := by
  have hall : ∀ n, b.base.value ≤ n → n < b.base.value + 2 ^ b.hostBits → n ∈ r := by
    intro n h₁ h₂
    obtain ⟨a, ha, rfl⟩ := b.exists_mem_value h₁ h₂
    exact h a ha
  obtain ⟨s, hs, hlo, hhi⟩ := exists_span_of_forall_mem (Nat.two_pow_pos b.hostBits) hall
  obtain ⟨g, hg, hbg⟩ := Span.exists_subset_cover hf hlo hhi
  exact ⟨g, mem_cover_iff.mpr ⟨s, hs, hg⟩, hbg⟩

end Runs

/-! ## Both families -/

namespace AddressSet

variable {s : AddressSet} {a : Address} {b : Block}

theorem mem_subnets_iff : b ∈ s.subnets ↔ b ∈ (s.runs b.family).cover := by
  rw [subnets, List.mem_append]
  constructor
  · rintro (h | h) <;> rw [Runs.family_of_mem_cover h] <;> exact h
  · intro h
    cases hf : b.family <;> rw [hf] at h
    · exact .inl h
    · exact .inr h

/-- `s.subnets` has the addresses of `s`. -/
theorem mem_subnets : (∃ b ∈ s.subnets, a ∈ b) ↔ a ∈ s := by
  constructor
  · rintro ⟨b, hb, hab⟩
    have hf : a.family = b.family := hab.1
    rw [mem_subnets_iff, ← hf] at hb
    exact (Runs.mem_cover.mp ⟨b, hb, hab⟩).2
  · intro h
    obtain ⟨b, hb, hab⟩ := Runs.mem_cover.mpr ⟨rfl, mem_iff.mp h⟩
    exact ⟨b, mem_subnets_iff.mpr (hab.1 ▸ hb), hab⟩

theorem pairwise_subnets (s : AddressSet) : s.subnets.Pairwise Block.Before := by
  refine List.pairwise_append.mpr ⟨s.ipv4.pairwise_cover, s.ipv6.pairwise_cover,
    fun b hb c hc => .inl ?_⟩
  rw [Runs.family_of_mem_cover hb, Runs.family_of_mem_cover hc]
  decide

/-- A block `b` inside `s` is inside a block of `s.subnets`. -/
theorem exists_subset_subnets (h : ∀ a ∈ b, a ∈ s) : ∃ g ∈ s.subnets, b ⊆ g := by
  obtain ⟨g, hg, hbg⟩ := Runs.exists_subset_cover (r := s.runs b.family) rfl fun a ha =>
    ha.1 ▸ mem_iff.mp (h a ha)
  refine ⟨g, mem_subnets_iff.mpr ?_, hbg⟩
  rw [Runs.family_of_mem_cover hg]
  exact hg

/-- `s.subnets` is the least cover of `s`: a list `bs` with the same addresses has a block inside
each block of it. -/
theorem isLeastCover_subnets (s : AddressSet) : IsLeastCover s.subnets (· ∈ s) where
  ordered := s.pairwise_subnets
  covers _ := mem_subnets
  least bs hbs := by
    refine Block.length_le_of_disjoint (s.pairwise_subnets.imp Block.Before.disjoint) ?_ ?_
    · exact fun c hc => exists_subset_subnets fun a ha => (hbs a).mp ⟨c, hc, ha⟩
    · exact fun g hg a ha => (hbs a).mpr (mem_subnets.mp ⟨g, hg, ha⟩)

/-- The blocks of `s.subnets` start at the first address of the network that their `prefixLength`
says, IPv4 blocks come before IPv6 blocks and each family's in ascending order, no two have a common
address, and together they have the addresses of `s`. No list `bs` with the same addresses is
shorter, and one of the same length has the same blocks. -/
theorem subnets_minimal (s : AddressSet) :
    (∀ b ∈ s.subnets, b.prefixLength ≤ b.family.width ∧ b.base.network b.prefixLength = b.base) ∧
    s.subnets.Pairwise (fun b c => b.family.rank < c.family.rank ∨
      b.family = c.family ∧ b.base.value < c.base.value) ∧
    s.subnets.Pairwise Block.Disjoint ∧
    (∀ a, (∃ b ∈ s.subnets, a ∈ b) ↔ a ∈ s) ∧
    ∀ bs : List Block, (∀ a, (∃ b ∈ bs, a ∈ b) ↔ a ∈ s) →
      s.subnets.length ≤ bs.length ∧ (bs.length = s.subnets.length → bs.Perm s.subnets) := by
  refine ⟨fun b _ => ⟨b.prefixLength_le, ?_⟩, ?_, ?_, fun a => mem_subnets, fun bs hbs => ?_⟩
  · exact Address.ext rfl (Nat.div_mul_cancel b.dvd_base)
  · refine s.pairwise_subnets.imp fun {b c} h => h.imp_right fun ⟨hf, hle⟩ => ⟨hf, ?_⟩
    have := Nat.two_pow_pos b.hostBits
    omega
  · exact s.pairwise_subnets.imp Block.Before.disjoint
  · refine Block.length_le_of_disjoint (s.pairwise_subnets.imp Block.Before.disjoint) ?_ ?_
    · exact fun c hc => exists_subset_subnets fun a ha => (hbs a).mp ⟨c, hc, ha⟩
    · exact fun g hg a ha => (hbs a).mpr (mem_subnets.mp ⟨g, hg, ha⟩)

end AddressSet

end SplitTunnel.Net
