import SplitTunnel.Policy.FamilyPlan
import SplitTunnel.Proofs.Net.Cover

/-!
# Which addresses a plan routes (`SPEC_FULL.md` §4.2, the per-family table)

* `FamilyPlan.Routes`: an address is in one of the plan's blocks.
* `FamilyPlan.mem_routed`: what is routed of a family that is not blocked.
* `FamilyPlan.routes_decide`: the addresses that the plan for a family routes, and
  `FamilyPlan.bypass_decide`: when the family may go past the tunnel.
* `FamilyPlan.decide_exact`: the whole plan, said of addresses.
-/

namespace SplitTunnel

open Net

theorem Net.Runs.isEmpty_iff {f : Family} {r : Runs f} : r.isEmpty = true ↔ ∀ n, n ∉ r := by
  rw [Runs.isEmpty, List.isEmpty_iff]
  constructor
  · intro h n
    simp [Runs.mem_iff, h]
  · intro h
    cases hs : r.spans with
    | nil => rfl
    | cons s rest => exact absurd ⟨s, by simp [hs], Nat.le_refl _, s.first_le_last⟩ (h s.first)

theorem Net.AddressSet.isEmpty_iff {s : AddressSet} : s.isEmpty = true ↔ ∀ a, a ∉ s := by
  rw [AddressSet.isEmpty, Bool.and_eq_true, Runs.isEmpty_iff, Runs.isEmpty_iff]
  constructor
  · rintro ⟨h₄, h₆⟩ ⟨f, v, hv⟩
    cases f
    · exact h₄ v
    · exact h₆ v
  · intro h
    -- a number of the wrong size is in no run
    have hrun : ∀ f n, n ∉ s.runs f := by
      rintro f n ⟨x, hx, hn⟩
      exact h ⟨f, n, Nat.lt_of_le_of_lt hn.2 x.last_lt⟩ ⟨x, hx, hn⟩
    exact ⟨hrun .ipv4, hrun .ipv6⟩

theorem Net.Block.mem_whole {f : Family} {a : Address} : a ∈ Block.whole f ↔ a.family = f := by
  rw [Block.mem_iff_bounds]
  refine ⟨fun h => h.1, fun h => ⟨h, Nat.zero_le _, ?_⟩⟩
  have hlt := a.value_lt
  rw [h] at hlt
  exact Nat.lt_of_lt_of_eq hlt (Nat.zero_add _).symm

namespace FamilyPlan

variable {f : Family} {blocked seen : Bool} {included excluded pushed : AddressSet} {a : Address}

/-- `p` sends `a` into the tunnel. -/
def Routes (p : FamilyPlan) (a : Address) : Prop := ∃ b ∈ p.routes, a ∈ b

/-- Of a family `f` that is not blocked the `included` addresses are routed, or the `pushed` ones if
none is included, and never an `excluded` one. -/
theorem mem_routed :
    a ∈ routed f included excluded pushed ↔ a.family = f ∧ a ∉ excluded ∧
      (a ∈ included ∨ (∀ c, c.family = f → c ∉ included) ∧ a ∈ pushed) := by
  have hempty : (included.restrict f).isEmpty = true ↔ ∀ c, c.family = f → c ∉ included := by
    simp only [AddressSet.isEmpty_iff, AddressSet.mem_restrict, not_and]
  unfold routed
  rw [AddressSet.mem_removeAll]
  split
  · next h =>
    have hnone := hempty.mp h
    rw [AddressSet.mem_restrict]
    constructor
    · rintro ⟨⟨hf, hp⟩, he⟩
      exact ⟨hf, he, .inr ⟨hnone, hp⟩⟩
    · rintro ⟨hf, he, hi | ⟨-, hp⟩⟩
      · exact absurd hi (hnone a hf)
      · exact ⟨⟨hf, hp⟩, he⟩
  · next h =>
    rw [AddressSet.mem_restrict]
    constructor
    · rintro ⟨⟨hf, hi⟩, he⟩
      exact ⟨hf, he, .inl hi⟩
    · rintro ⟨hf, he, hi | ⟨hnone, -⟩⟩
      · exact ⟨⟨hf, hi⟩, he⟩
      · exact absurd (hempty.mpr hnone) h

/-- `decide` routes nothing of a family without an address in the tunnel, all of one that is
`blocked`, and of any other what `routed` says. -/
theorem routes_decide :
    (decide f blocked seen included excluded pushed).Routes a ↔ seen = true ∧ a.family = f ∧
      (blocked = true ∨ a ∈ routed f included excluded pushed) := by
  cases blocked <;> cases seen
  · simp [decide, Routes]
  · simp only [decide, Routes, AddressSet.mem_subnets, true_and, Bool.false_eq_true, false_or]
    exact ⟨fun h => ⟨(mem_routed.mp h).1, h⟩, fun h => h.2⟩
  · simp [decide, Routes]
  · simp [decide, Routes, Block.mem_whole]

theorem bypass_decide :
    (decide f blocked seen included excluded pushed).bypass = (!blocked && !seen) := by
  cases blocked <;> cases seen <;> rfl

/-- The routes of a family `f` that is neither blocked nor without an address in the tunnel are the
least cover of what is to be routed. -/
theorem isLeastCover_routes (f : Family) (included excluded pushed : AddressSet) :
    IsLeastCover (decide f false true included excluded pushed).routes fun a =>
      a.family = f ∧ a ∉ excluded ∧
        (a ∈ included ∨ (∀ c, c.family = f → c ∉ included) ∧ a ∈ pushed) :=
  (AddressSet.isLeastCover_subnets (routed f included excluded pushed)).congr fun _ => mem_routed

theorem family_of_mem_routes {b : Block}
    (hb : b ∈ (decide f blocked seen included excluded pushed).routes) : b.family = f :=
  (routes_decide.mp ⟨b, hb, b.base_mem⟩).2.1

/-- The plan of `decide` has blocks of its family only. A family that is not blocked and has an
address in the tunnel is not let past it, and its routes are the least cover of those of its
addresses that are not excluded and are included or, if no address of the family is included,
pushed; if all the included ones are excluded, there is no route. Of a blocked family with an
address in the tunnel one route takes all addresses. A family without one has no route, and may go
past the tunnel if and only if it is not blocked. -/
theorem decide_exact (f : Family) (included excluded pushed : AddressSet) :
    (∀ blocked seen, ∀ b ∈ (decide f blocked seen included excluded pushed).routes,
      b.family = f) ∧
    IsLeastCover (decide f false true included excluded pushed).routes (fun a =>
      a.family = f ∧ a ∉ excluded ∧
        (a ∈ included ∨ (∀ c, c.family = f → c ∉ included) ∧ a ∈ pushed)) ∧
    ((∃ a ∈ included, a.family = f) → (∀ a ∈ included, a.family = f → a ∈ excluded) →
      (decide f false true included excluded pushed).routes = []) ∧
    (∃ b, (decide f true true included excluded pushed).routes = [b] ∧
      ∀ a, a ∈ b ↔ a.family = f) ∧
    (∀ blocked, (decide f blocked false included excluded pushed).routes = []) ∧
    ∀ blocked seen, (decide f blocked seen included excluded pushed).bypass = true ↔
      blocked = false ∧ seen = false := by
  have hcover := isLeastCover_routes f included excluded pushed
  refine ⟨fun blocked seen b hb => family_of_mem_routes hb, hcover, ?_, ?_, ?_, ?_⟩
  · -- an included address of the family keeps the pushed ones out, excluded or not
    rintro ⟨c, hc, hcf⟩ hall
    refine hcover.eq_nil fun a ⟨hf, he, hi⟩ => ?_
    rcases hi with hi | ⟨hnone, -⟩
    · exact he (hall a hi hf)
    · exact hnone c hcf hc
  · exact ⟨Block.whole f, rfl, fun a => Block.mem_whole⟩
  · intro blocked
    cases blocked <;> rfl
  · intro blocked seen
    rw [bypass_decide]
    cases blocked <;> cases seen <;> simp

/-- The `one` included address is excluded again, and no other address that is pushed takes its
place. -/
theorem decide_exact_emptied :
    let one := AddressSet.empty.add (.host (.zero .ipv4))
    (∃ a ∈ one, a.family = .ipv4) ∧
      (decide .ipv4 false true one one (AddressSet.empty.add (.whole .ipv4))).routes = [] := by
  intro one
  have hsome : ∃ a ∈ one, a.family = .ipv4 :=
    ⟨.zero .ipv4, AddressSet.mem_add.mpr (.inl (Block.base_mem _)), rfl⟩
  exact ⟨hsome, (decide_exact .ipv4 one one _).2.2.1 hsome fun a ha _ => ha⟩

end FamilyPlan

end SplitTunnel
