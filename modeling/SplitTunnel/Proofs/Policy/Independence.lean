import SplitTunnel.Proofs.Net.Canonical
import SplitTunnel.Proofs.Policy.Growth

/-!
# The plan of a family depends on that family alone (`SPEC_FULL.md` §4.2)

Two recordings, of any two profiles, are compared. How they came to know what they know does not
show in a plan, and neither does what they know of the other family.

* `FamilyPlan.routed_congr`, `FamilyPlan.decide_congr`: the plan for a family reads the sets for
  addresses of the family only.
* `Recording.seen_foldl_learn`, `Recording.mem_pushed_foldl_learn`: what facts add up to.
* `Recording.plan_independent`: recordings that agree on a family have the same plan for it.
-/

namespace SplitTunnel

open Net

namespace FamilyPlan

variable {f : Family} {blocked seen : Bool}
  {included excluded pushed included' excluded' pushed' : AddressSet}

/-- `s` and `t` have the same addresses of the family `f`. -/
def AgreeOn (f : Family) (s t : AddressSet) : Prop := ∀ a, a.family = f → (a ∈ s ↔ a ∈ t)

/-- `routed` reads of its three sets the addresses of `f` only. -/
theorem routed_congr (hi : AgreeOn f included included') (he : AgreeOn f excluded excluded')
    (hp : AgreeOn f pushed pushed') :
    routed f included excluded pushed = routed f included' excluded' pushed' := by
  have hnone : (∀ c, c.family = f → c ∉ included) ↔ ∀ c, c.family = f → c ∉ included' :=
    forall_congr' fun c => imp_congr_right fun hc => not_congr (hi c hc)
  refine AddressSet.eq_of_mem_iff fun a => ?_
  rw [mem_routed, mem_routed]
  refine and_congr_right fun hf => ?_
  rw [hi a hf, he a hf, hp a hf, hnone]

theorem decide_congr (hi : AgreeOn f included included') (he : AgreeOn f excluded excluded')
    (hp : AgreeOn f pushed pushed') :
    decide f blocked seen included excluded pushed =
      decide f blocked seen included' excluded' pushed' := by
  have hrouted := routed_congr hi he hp
  unfold decide
  rw [hrouted]

end FamilyPlan

namespace Recording

variable {r : Recording} {facts : List Fact} {f : Family} {a : Address}

/-! ## What a recording has learned -/

/-- The family `f` is seen if it was before or one of `facts` shows it. -/
theorem seen_foldl_learn :
    (facts.foldl learn r).seen f = true ↔ r.seen f = true ∨ ∃ fact ∈ facts, fact.Shows f := by
  induction facts generalizing r with
  | nil => simp
  | cons fact rest ih =>
    simp only [List.foldl_cons, ih, seen_learn, List.mem_cons, exists_eq_or_imp, or_assoc]

/-- The address `a` is pushed if it was before or one of `facts` pushes it. -/
theorem mem_pushed_foldl_learn :
    a ∈ (facts.foldl learn r).pushed ↔ a ∈ r.pushed ∨ ∃ fact ∈ facts, fact.Pushes a := by
  induction facts generalizing r with
  | nil => simp
  | cons fact rest ih =>
    simp only [List.foldl_cons, ih, mem_pushed_learn, List.mem_cons, exists_eq_or_imp, or_assoc]

variable {p q : Profile} {owner owner' : String} {initial initial' : Recording}
  {facts' : List Fact}

/-- A recording that starts with `initial` has seen `f` if and only if one of `facts` shows it. -/
theorem seen_of_start (h : start p owner = .ok initial) (facts : List Fact) (f : Family) :
    (facts.foldl learn initial).seen f = true ↔ ∃ fact ∈ facts, fact.Shows f := by
  have hnone : initial.seen f = false := by
    obtain ⟨_, _, -, -, rfl⟩ := eq_of_start h
    cases f <;> rfl
  rw [seen_foldl_learn, hnone]
  exact or_iff_right Bool.false_ne_true

/-- All that is pushed to a recording that starts with `initial` comes from `facts`. -/
theorem mem_pushed_of_start (h : start p owner = .ok initial) :
    a ∈ (facts.foldl learn initial).pushed ↔ ∃ fact ∈ facts, fact.Pushes a := by
  obtain ⟨_, _, -, -, rfl⟩ := eq_of_start h
  rw [mem_pushed_foldl_learn]
  exact or_iff_right (AddressSet.not_mem_empty a)

theorem mem_included_of_start (h : start p owner = .ok initial) :
    a ∈ (facts.foldl learn initial).included ↔
      AddressSet.TextDenotes (p.includedSubnets.getD "") a := by
  rw [(sameLimits_foldl_learn facts initial).included]
  obtain ⟨_, _, hi, -, rfl⟩ := eq_of_start h
  exact AddressSet.mem_of_parse hi a

theorem mem_excluded_of_start (h : start p owner = .ok initial) :
    a ∈ (facts.foldl learn initial).excluded ↔
      AddressSet.TextDenotes (p.excludedSubnets.getD "") a := by
  rw [(sameLimits_foldl_learn facts initial).excluded]
  obtain ⟨_, _, -, he, rfl⟩ := eq_of_start h
  exact AddressSet.mem_of_parse he a

theorem splitTunneling_of_start (h : start p owner = .ok initial) (facts : List Fact) :
    (facts.foldl learn initial).splitTunneling = p.splitTunneling := by
  rw [(sameLimits_foldl_learn facts initial).splitTunneling, splitTunneling_start h]

/-! ## Two recordings -/

/-- `p` with `facts` and `q` with `facts'` say the same of the family `f`: whether it is blocked,
which of its addresses the lists denote and the gateway pushed, and whether it is seen. -/
structure SameFor (f : Family) (p : Profile) (facts : List Fact) (q : Profile)
    (facts' : List Fact) : Prop where
  blocked : p.splitTunneling.blocks f = q.splitTunneling.blocks f
  included : ∀ a, a.family = f → (AddressSet.TextDenotes (p.includedSubnets.getD "") a ↔
    AddressSet.TextDenotes (q.includedSubnets.getD "") a)
  excluded : ∀ a, a.family = f → (AddressSet.TextDenotes (p.excludedSubnets.getD "") a ↔
    AddressSet.TextDenotes (q.excludedSubnets.getD "") a)
  pushed : ∀ a, a.family = f →
    ((∃ fact ∈ facts, fact.Pushes a) ↔ ∃ fact ∈ facts', fact.Pushes a)
  shown : (∃ fact ∈ facts, fact.Shows f) ↔ ∃ fact ∈ facts', fact.Shows f

/-- A recording has seen a family if and only if it was told of an address of it: one of the
interface, a DNS server or any other. And recordings for which `SameFor` says the same of the family
`f` have the same plan for it. Neither the pieces in which its addresses came, nor their order and
number, nor anything of the other family shows in the plan. -/
theorem plan_independent (hp : start p owner = .ok initial) (hq : start q owner' = .ok initial')
    (h : SameFor f p facts q facts') :
    (∀ g, (facts.foldl learn initial).seen g = true ↔ ∃ fact ∈ facts, fact.Shows g) ∧
    (facts.foldl learn initial).plan f = (facts'.foldl learn initial').plan f := by
  refine ⟨seen_of_start hp facts, ?_⟩
  have hseen : (facts.foldl learn initial).seen f = (facts'.foldl learn initial').seen f := by
    apply Bool.eq_iff_iff.mpr
    rw [seen_of_start hp, seen_of_start hq]
    exact h.shown
  unfold plan
  rw [hseen, splitTunneling_of_start hp, splitTunneling_of_start hq, h.blocked]
  apply FamilyPlan.decide_congr
  · intro a ha
    rw [mem_included_of_start hp, mem_included_of_start hq]
    exact h.included a ha
  · intro a ha
    rw [mem_excluded_of_start hp, mem_excluded_of_start hq]
    exact h.excluded a ha
  · intro a ha
    rw [mem_pushed_of_start hp, mem_pushed_of_start hq]
    exact h.pushed a ha

/-- `p` includes a block, `q` its halves and addresses of the other family. The same blocks are
pushed, to the second recording in the other order, one of them twice, and one of the other family.
-/
theorem plan_independent_halves :
    ∃ (p q : Profile) (initial initial' : Recording) (b c : Block) (a : Address),
      p.includedSubnets = some "10.0.0.0/8" ∧
      q.includedSubnets = some "10.128.0.0/9 ::/1 10.0.0.0/9" ∧
      start p "owner" = .ok initial ∧ start q "other" = .ok initial' ∧ b ≠ c ∧
      ([Fact.family a, .route b, .route c].foldl learn initial).plan .ipv4 =
        ([Fact.route c, .route (.whole .ipv6), .dnsServer a, .route b, .route c].foldl learn
          initial').plan .ipv4 := by
  obtain ⟨s, hs⟩ : ∃ s, AddressSet.parse "10.0.0.0/8" = .ok s := ⟨_, rfl⟩
  obtain ⟨t, ht⟩ : ∃ t, AddressSet.parse "10.128.0.0/9 ::/1 10.0.0.0/9" = .ok t := ⟨_, rfl⟩
  obtain ⟨blank, hblank⟩ : ∃ blank, AddressSet.parse "" = .ok blank := ⟨_, rfl⟩
  let p : Profile := { includedSubnets := some "10.0.0.0/8" }
  let q : Profile := { includedSubnets := some "10.128.0.0/9 ::/1 10.0.0.0/9" }
  let b : Block := .whole .ipv4
  let c : Block := .host (.zero .ipv4)
  obtain ⟨initial, hp, -⟩ := start_of_ok (p := p) hs hblank "owner"
  obtain ⟨initial', hq, -⟩ := start_of_ok (p := q) ht hblank "other"
  have hipv4 : (AddressSet.parse "10.0.0.0/8").map AddressSet.ipv4 =
      (AddressSet.parse "10.128.0.0/9 ::/1 10.0.0.0/9").map AddressSet.ipv4 := by rfl
  rw [hs, ht] at hipv4
  have hruns : s.runs .ipv4 = t.runs .ipv4 := Except.ok.inj hipv4
  have hsame : SameFor .ipv4 p [.family (.zero .ipv4), .route b, .route c] q
      [.route c, .route (.whole .ipv6), .dnsServer (.zero .ipv4), .route b, .route c] := by
    refine ⟨rfl, fun a ha => ?_, fun a ha => Iff.rfl, fun a ha => ?_, ?_⟩
    · have hmem : a ∈ s ↔ a ∈ t := by
        rw [AddressSet.mem_iff, AddressSet.mem_iff, ha, hruns]
      rw [AddressSet.mem_of_parse hs, AddressSet.mem_of_parse ht] at hmem
      exact hmem
    · simp [Fact.Pushes, Block.mem_whole, ha, or_comm]
    · simp [Fact.Shows, Address.zero]
  exact ⟨p, q, initial, initial', b, c, .zero .ipv4, rfl, rfl, hp, hq, by decide,
    (plan_independent hp hq hsame).2⟩

end Recording

end SplitTunnel
