import SplitTunnel.Proofs.Net.Canonical
import Mathlib.Data.Set.Card

/-!
# The algebra of address sets (`SPEC_FULL.md` §4.1 and §8)

An `AddressSet` is held in one form only, so what is known of its addresses is known of the set: an
equation between sets has to be checked for one address at a time.

* `AddressSet.eq_iff`: sets are equal if and only if they have the same addresses.
* `AddressSet.isMaximalRun_iff`, `AddressSet.encard_maximalRuns`: the spans of a set are its maximal
  runs of addresses in a row, each held once.
* `AddressSet.addAll_comm`, `AddressSet.removeAll_removeAll`, `AddressSet.addAll_removeAll` and
  their like: the laws of union and difference.
* `AddressSet.extend_congr`: of a list of blocks only the addresses matter.
* `AddressSet.algebra_of_addresses`: all of these together.
-/

namespace SplitTunnel.Net.AddressSet

variable {s t u : AddressSet} {f : Family} {bs cs : List Block}

theorem eq_iff : s = t ↔ ∀ a, a ∈ s ↔ a ∈ t :=
  ⟨fun h _ => h ▸ Iff.rfl, eq_of_mem_iff⟩

/-! ## Maximal runs -/

/-- All addresses from `lo` to `hi` are in `s`, and neither the one before `lo` nor the one after
`hi` is. -/
structure IsMaximalRun (s : AddressSet) (lo hi : Address) : Prop where
  family : hi.family = lo.family
  le : lo.value ≤ hi.value
  inside : ∀ a, a.family = lo.family → lo.value ≤ a.value → a.value ≤ hi.value → a ∈ s
  outside : ∀ a ∈ s, a.family = lo.family → a.value + 1 ≠ lo.value ∧ a.value ≠ hi.value + 1

/-- A number `n` in `s.runs f` is that of an address of `s`. -/
theorem exists_address {n : Nat} (h : n ∈ s.runs f) : ∃ a ∈ s, a.family = f ∧ a.value = n :=
  ⟨⟨f, n, Runs.lt_size_of_mem h⟩, h, rfl, rfl⟩

/-- The first and the last address of the span `x`. -/
def ends (x : Span f) : Address × Address :=
  (⟨f, x.first, x.first_lt⟩, ⟨f, x.last, x.last_lt⟩)

/-- A span `x` of `s` is a maximal run: an address next to it would lie in a span that touches it.
-/
theorem isMaximalRun_ends {x : Span f} (hx : x ∈ (s.runs f).spans) :
    s.IsMaximalRun (ends x).1 (ends x).2 where
  family := rfl
  le := x.first_le_last
  inside := by
    rintro ⟨g, n, hn⟩ hg hlo hhi
    cases hg
    exact ⟨x, hx, hlo, hhi⟩
  outside := by
    rintro ⟨g, n, hn⟩ hmem hg
    cases hg
    obtain ⟨y, hy, hny⟩ := hmem
    have hle := x.first_le_last
    have hsame (hlo : x.first ≤ n + 1) (hhi : n ≤ x.last + 1) : n ∈ x :=
      (Runs.eq_of_touches hx hy hny hlo hhi) ▸ hny
    constructor
    · intro hbefore
      have hbefore : n + 1 = x.first := hbefore
      have hin := (hsame (by omega) (by omega)).1
      omega
    · intro hafter
      have hafter : n = x.last + 1 := hafter
      have hin := (hsame (by omega) (by omega)).2
      omega

/-- The maximal runs of `s` are its spans. -/
theorem isMaximalRun_iff {lo hi : Address} :
    s.IsMaximalRun lo hi ↔ ∃ x ∈ (s.runs lo.family).spans, (lo, hi) = ends x := by
  constructor
  · intro h
    have hle := h.le
    -- one span takes in all of the run, and what it has beyond would be next to the run
    have hall (n : Nat) (hlo : lo.value ≤ n) (hhi : n < lo.value + (hi.value + 1 - lo.value)) :
        n ∈ s.runs lo.family := by
      have hlt : hi.value < lo.family.size := h.family ▸ hi.value_lt
      have hn : n ≤ hi.value := by omega
      exact h.inside ⟨lo.family, n, Nat.lt_of_le_of_lt hn hlt⟩ rfl hlo hn
    obtain ⟨x, hx, hfirst, hlast⟩ := Runs.exists_span_of_forall_mem (by omega) hall
    have hout (n : Nat) (hn : n ∈ x) : n + 1 ≠ lo.value ∧ n ≠ hi.value + 1 := by
      obtain ⟨a, ha, hf, rfl⟩ := exists_address (s := s) (f := lo.family) ⟨x, hx, hn⟩
      exact h.outside a ha hf
    have hx_le := x.first_le_last
    have hlo : lo.value = x.first := by
      by_contra hne
      exact (hout (lo.value - 1) ⟨by omega, by omega⟩).1 (by omega)
    have hhi : hi.value = x.last := by
      by_contra hne
      exact (hout (hi.value + 1) ⟨by omega, by omega⟩).2 rfl
    exact ⟨x, hx, Prod.ext (Address.ext rfl hlo) (Address.ext h.family hhi)⟩
  · rintro ⟨x, hx, hends⟩
    have hrun := isMaximalRun_ends hx
    rw [← hends] at hrun
    exact hrun

theorem ends_injective : Function.Injective (ends (f := f)) := by
  intro x y h
  have hfirst : x.first = y.first := congrArg (fun e : Address × Address => e.1.value) h
  have hlast : x.last = y.last := congrArg (fun e : Address × Address => e.2.value) h
  exact Span.ext hfirst hlast

/-- `s` has as many maximal runs of the family `f` as spans. -/
theorem encard_maximalRuns (s : AddressSet) (f : Family) :
    {x : Address × Address | s.IsMaximalRun x.1 x.2 ∧ x.1.family = f}.encard =
      (s.runs f).spans.length := by
  have hruns : {x : Address × Address | s.IsMaximalRun x.1 x.2 ∧ x.1.family = f} =
      ↑((s.runs f).spans.map ends).toFinset := by
    ext ⟨lo, hi⟩
    simp only [Set.mem_ofPred_eq, List.coe_toFinset, List.mem_map]
    constructor
    · rintro ⟨hrun, rfl⟩
      obtain ⟨x, hx, hends⟩ := isMaximalRun_iff.mp hrun
      exact ⟨x, hx, hends.symm⟩
    · rintro ⟨x, hx, hends⟩
      cases hends
      exact ⟨isMaximalRun_ends hx, rfl⟩
  have hnodup : ((s.runs f).spans.map ends).Nodup := (s.runs f).nodup_spans.map ends_injective
  rw [hruns, Set.encard_coe_eq_coe_finsetCard, List.toFinset_card_of_nodup hnodup,
    List.length_map]

/-! ## Union and difference -/

theorem addAll_comm (s t : AddressSet) : s.addAll t = t.addAll s :=
  eq_of_mem_iff fun a => by rw [mem_addAll, mem_addAll, or_comm]

theorem addAll_assoc (s t u : AddressSet) : (s.addAll t).addAll u = s.addAll (t.addAll u) :=
  eq_of_mem_iff fun a => by simp only [mem_addAll, or_assoc]

theorem addAll_self (s : AddressSet) : s.addAll s = s :=
  eq_of_mem_iff fun a => by rw [mem_addAll, or_self]

/-- What is removed in two steps, `t` and then `u`, can be removed at once. -/
theorem removeAll_removeAll (s t u : AddressSet) :
    (s.removeAll t).removeAll u = s.removeAll (t.addAll u) :=
  eq_of_mem_iff fun a => by simp only [mem_removeAll, mem_addAll, not_or, and_assoc]

theorem addAll_removeAll (s t u : AddressSet) :
    (s.addAll t).removeAll u = (s.removeAll u).addAll (t.removeAll u) :=
  eq_of_mem_iff fun a => by simp only [mem_removeAll, mem_addAll, or_and_right]

theorem removeAll_self (s : AddressSet) : s.removeAll s = empty :=
  eq_of_mem_iff fun a => by simp

theorem removeAll_empty (s : AddressSet) : s.removeAll empty = s :=
  eq_of_mem_iff fun a => by simp

/-! ## Lists of blocks -/

/-- Lists `bs` and `cs` with the same addresses have the same effect on `s`. -/
theorem extend_congr (s : AddressSet) (h : ∀ a, (∃ b ∈ bs, a ∈ b) ↔ ∃ c ∈ cs, a ∈ c) :
    s.extend bs = s.extend cs :=
  eq_of_mem_iff fun a => by rw [mem_extend, mem_extend, h]

/-- Order and repetition in `bs` do not matter. -/
theorem extend_congr_of_mem_iff (s : AddressSet) (h : ∀ b, b ∈ bs ↔ b ∈ cs) :
    s.extend bs = s.extend cs :=
  s.extend_congr fun a => by simp only [h]

/-- Two sets are equal if and only if they have the same addresses, and `runCount` counts the
maximal runs of addresses in a row of both families. `addAll` is commutative, associative and
idempotent; `removeAll` of two sets one after the other, in either order, removes their union;
`removeAll` distributes over `addAll`; a set without itself is `empty`, and without `empty` it is
the same. Lists with the same blocks in any order and number, and lists with the same addresses,
make the same set and add the same to a set. -/
theorem algebra_of_addresses :
    (∀ s t : AddressSet, s = t ↔ ∀ a, a ∈ s ↔ a ∈ t) ∧
    (∀ s : AddressSet, (s.runCount : ℕ∞) =
      {x : Address × Address | s.IsMaximalRun x.1 x.2 ∧ x.1.family = .ipv4}.encard +
        {x : Address × Address | s.IsMaximalRun x.1 x.2 ∧ x.1.family = .ipv6}.encard) ∧
    (∀ s t : AddressSet, s.addAll t = t.addAll s) ∧
    (∀ s t u : AddressSet, (s.addAll t).addAll u = s.addAll (t.addAll u)) ∧
    (∀ s : AddressSet, s.addAll s = s) ∧
    (∀ s t u : AddressSet, (s.removeAll t).removeAll u = s.removeAll (t.addAll u) ∧
      (s.removeAll u).removeAll t = s.removeAll (t.addAll u)) ∧
    (∀ s t u : AddressSet,
      (s.addAll t).removeAll u = (s.removeAll u).addAll (t.removeAll u)) ∧
    (∀ s : AddressSet, s.removeAll s = empty ∧ s.removeAll empty = s) ∧
    (∀ bs cs : List Block, (∀ b, b ∈ bs ↔ b ∈ cs) →
      ofBlocks bs = ofBlocks cs ∧ ∀ s : AddressSet, s.extend bs = s.extend cs) ∧
    ∀ bs cs : List Block, (∀ a, (∃ b ∈ bs, a ∈ b) ↔ ∃ c ∈ cs, a ∈ c) →
      ofBlocks bs = ofBlocks cs ∧ ∀ s : AddressSet, s.extend bs = s.extend cs := by
  refine ⟨fun s t => eq_iff, fun s => ?_, addAll_comm, addAll_assoc, addAll_self,
    fun s t u => ⟨removeAll_removeAll s t u, ?_⟩, addAll_removeAll,
    fun s => ⟨removeAll_self s, removeAll_empty s⟩,
    fun bs cs h => ⟨empty.extend_congr_of_mem_iff h, fun s => s.extend_congr_of_mem_iff h⟩,
    fun bs cs h => ⟨empty.extend_congr h, fun s => s.extend_congr h⟩⟩
  · rw [encard_maximalRuns, encard_maximalRuns]
    exact Nat.cast_add _ _
  · rw [removeAll_removeAll, addAll_comm]

/-- The two halves of a family, `upper` twice, and `Block.whole`. -/
theorem algebra_of_addresses_halves :
    ∃ lower upper : Block, lower ≠ upper ∧ ∀ s : AddressSet,
      s.extend [upper, lower, upper] = s.extend [Block.whole .ipv4] := by
  let lower : Block := ⟨⟨.ipv4, 0, by decide⟩, 1, by decide, by decide⟩
  let upper : Block := ⟨⟨.ipv4, 2 ^ 31, by decide⟩, 1, by decide, by decide⟩
  have hsame (a : Address) :
      (∃ b ∈ [upper, lower, upper], a ∈ b) ↔ ∃ c ∈ [Block.whole .ipv4], a ∈ c := by
    have hlower : a ∈ lower ↔ a.family = .ipv4 ∧ 0 ≤ a.value ∧ a.value < 0 + 2 ^ 31 :=
      Block.mem_iff_bounds
    have hupper : a ∈ upper ↔ a.family = .ipv4 ∧ 2 ^ 31 ≤ a.value ∧ a.value < 2 ^ 31 + 2 ^ 31 :=
      Block.mem_iff_bounds
    have hwhole : a ∈ Block.whole .ipv4 ↔ a.family = .ipv4 ∧ 0 ≤ a.value ∧ a.value < 0 + 2 ^ 32 :=
      Block.mem_iff_bounds
    simp only [List.mem_cons, List.not_mem_nil, or_false, exists_eq_or_imp, exists_eq_left,
      hlower, hupper, hwhole, ← and_or_left]
    refine and_congr_right fun _ => ?_
    omega
  obtain ⟨-, -, -, -, -, -, -, -, -, hcover⟩ := algebra_of_addresses
  exact ⟨lower, upper, by decide, (hcover _ _ hsame).2⟩

end SplitTunnel.Net.AddressSet
