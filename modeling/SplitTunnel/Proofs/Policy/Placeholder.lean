import SplitTunnel.Proofs.Policy.FamilyPlan
import SplitTunnel.Tunnel

/-!
# A placeholder takes in all that the interface it stands in for could (`SPEC_FULL.md` §4.3)

The recording that `establish_blocking` makes for a placeholder starts where every recording for the
profile does. It has an address of each family and all addresses behind the gateway, so whatever a
recording routes it routes, too.

* `Recording.Fact`, `Recording.learn`: what a recording grows by.
* `Placeholder.seen_recording`, `Placeholder.mem_pushed_recording`: what the placeholder's grows by.
* `Recording.placeholder_covers`: the comparison with every recording for the same profile.
-/

namespace SplitTunnel

open Net

namespace Recording

/-- Something that a `Recording` grows by. -/
inductive Fact where
  | address (a : InterfaceAddress)
  | route (b : Block)
  | dnsServer (a : Address)
  | mtu (n : UInt16)
  /-- The tunnel carries the family of `a`. -/
  | family (a : Address)

/-- `r` with one fact more. -/
def learn (r : Recording) : Fact → Recording
  | .address a => r.addAddress a
  | .route b => r.addRoute b
  | .dnsServer a => r.addDnsServer a
  | .mtu n => r.setMtu n
  | .family a => r.see a.family

/-- `r` and `r'` are for the same subnets and the same blocked families. -/
structure SameLimits (r r' : Recording) : Prop where
  included : r'.included = r.included
  excluded : r'.excluded = r.excluded
  splitTunneling : r'.splitTunneling = r.splitTunneling

theorem SameLimits.refl (r : Recording) : SameLimits r r := ⟨rfl, rfl, rfl⟩

theorem SameLimits.trans {r₁ r₂ r₃ : Recording} (h : SameLimits r₁ r₂) (h' : SameLimits r₂ r₃) :
    SameLimits r₁ r₃ :=
  ⟨h'.included.trans h.included, h'.excluded.trans h.excluded,
    h'.splitTunneling.trans h.splitTunneling⟩

theorem sameLimits_see (r : Recording) (f : Family) : SameLimits r (r.see f) := by
  cases f <;> exact ⟨rfl, rfl, rfl⟩

theorem sameLimits_addAddress (r : Recording) (a : InterfaceAddress) :
    SameLimits r (r.addAddress a) := by
  have h : SameLimits r { r with addresses := r.addresses ++ [a] } := ⟨rfl, rfl, rfl⟩
  exact h.trans (sameLimits_see _ _)

theorem sameLimits_learn (r : Recording) (fact : Fact) : SameLimits r (r.learn fact) := by
  cases fact with
  | address a => exact sameLimits_addAddress r a
  | route b => exact ⟨rfl, rfl, rfl⟩
  | dnsServer a =>
    have h : SameLimits r { r with dnsServers := r.dnsServers ++ [a] } := ⟨rfl, rfl, rfl⟩
    exact h.trans (sameLimits_see _ _)
  | mtu n => exact ⟨rfl, rfl, rfl⟩
  | family a => exact sameLimits_see r _

theorem sameLimits_foldl {α : Type} {step : Recording → α → Recording}
    (h : ∀ r x, SameLimits r (step r x)) (l : List α) (r : Recording) :
    SameLimits r (l.foldl step r) := by
  induction l generalizing r with
  | nil => exact .refl r
  | cons x rest ih => exact (h r x).trans (ih _)

/-- No list of `facts` changes what the profile says. -/
theorem sameLimits_foldl_learn (facts : List Fact) (r : Recording) :
    SameLimits r (facts.foldl learn r) := sameLimits_foldl sameLimits_learn facts r

/-- `start` gives a recording for a profile `p` whose subnets can be read. -/
theorem start_of_ok {p : Profile} {included excluded : AddressSet}
    (hi : p.included = .ok included) (he : p.excluded = .ok excluded) (owningApp : String) :
    ∃ r, start p owningApp = .ok r ∧ r.included = included ∧ r.excluded = excluded ∧
      r.splitTunneling = p.splitTunneling := by
  unfold start
  rw [hi, he]
  exact ⟨_, rfl, rfl, rfl, rfl⟩

/-- `start` gives what the profile `p` says and nothing else. -/
theorem eq_of_start {p : Profile} {owningApp : String} {r : Recording}
    (h : start p owningApp = .ok r) :
    ∃ included excluded, p.included = .ok included ∧ p.excluded = .ok excluded ∧ r = {
      included
      excluded
      splitTunneling := p.splitTunneling
      appScope := .of p.selectedAppsHandling p.selectedApps owningApp
      mtu := p.mtu.getD defaultMtu } := by
  unfold start at h
  split at h
  · next included excluded hi he => exact ⟨included, excluded, hi, he, (Except.ok.inj h).symm⟩
  · cases h
  · cases h

theorem splitTunneling_start {p : Profile} {owningApp : String} {r : Recording}
    (h : start p owningApp = .ok r) : r.splitTunneling = p.splitTunneling := by
  obtain ⟨_, _, -, -, rfl⟩ := eq_of_start h
  rfl

/-- `start` fails exactly if the subnets of `p` cannot be read. -/
theorem exists_start_eq_error_iff {p : Profile} {owningApp : String} :
    (∃ e, start p owningApp = .error e) ↔ ∃ e, p.included = .error e ∨ p.excluded = .error e := by
  unfold start
  cases p.included <;> cases p.excluded <;> simp

end Recording

namespace Tunnel.Placeholder

open Recording

theorem sameLimits_recording (initial : Recording) : SameLimits initial (recording initial) := by
  have h := sameLimits_foldl sameLimits_addAddress addresses initial
  have hroute (r : Recording) (f : Family) : SameLimits r (r.addRoute (.whole f)) :=
    ⟨rfl, rfl, rfl⟩
  exact h.trans (sameLimits_foldl hroute Family.all _)

theorem seen_recording (initial : Recording) (f : Family) : (recording initial).seen f = true := by
  cases f <;> rfl

theorem mem_pushed_recording (initial : Recording) (a : Address) :
    a ∈ (recording initial).pushed := by
  have h : (recording initial).pushed =
      (initial.pushed.add (.whole .ipv4)).add (.whole .ipv6) := rfl
  rw [h, AddressSet.mem_add, AddressSet.mem_add, Block.mem_whole, Block.mem_whole]
  cases a.family <;> simp

end Tunnel.Placeholder

namespace Recording

open Tunnel

/-- What `r` routes of a family that is not blocked, the placeholder's recording routes: it has the
same included and excluded addresses, and all addresses are pushed. -/
theorem mem_routed_placeholder {initial r : Recording} (h : SameLimits initial r) {f : Family}
    {a : Address} (ha : a ∈ FamilyPlan.routed f r.included r.excluded r.pushed) :
    a ∈ FamilyPlan.routed f (Placeholder.recording initial).included
      (Placeholder.recording initial).excluded (Placeholder.recording initial).pushed := by
  have hp := Placeholder.sameLimits_recording initial
  obtain ⟨hf, he, hi⟩ := FamilyPlan.mem_routed.mp ha
  rw [h.included] at hi
  rw [h.excluded] at he
  refine FamilyPlan.mem_routed.mpr ⟨hf, hp.excluded ▸ he, ?_⟩
  rw [hp.included]
  exact hi.imp_right fun ⟨hnone, _⟩ => ⟨hnone, Placeholder.mem_pushed_recording initial a⟩

/-- For a profile `p` whose subnets can be read, the placeholder lets no family past the tunnel and
routes every address that any recording for `p` would route, and it routes an excluded address only
of a family that `p` blocks. -/
theorem placeholder_covers {p : Profile} {included excluded : AddressSet}
    (hi : p.included = .ok included) (he : p.excluded = .ok excluded) (owningApp : String) :
    ∃ initial, start p owningApp = .ok initial ∧ ∀ (facts : List Fact) (f : Family),
      ((Placeholder.recording initial).plan f).bypass = false ∧
      (∀ a, ((facts.foldl learn initial).plan f).Routes a →
        ((Placeholder.recording initial).plan f).Routes a) ∧
      ∀ a ∈ excluded, ((Placeholder.recording initial).plan f).Routes a →
        p.splitTunneling.blocks f = true := by
  obtain ⟨initial, hstart, -, hexcluded, hsplit⟩ := start_of_ok hi he owningApp
  refine ⟨initial, hstart, fun facts f => ?_⟩
  have hr := sameLimits_foldl_learn facts initial
  have hp := Placeholder.sameLimits_recording initial
  refine ⟨?_, fun a ha => ?_, fun a hex ha => ?_⟩
  · rw [plan, FamilyPlan.bypass_decide, Placeholder.seen_recording]
    simp
  · obtain ⟨-, hf, hroute⟩ := FamilyPlan.routes_decide.mp ha
    refine FamilyPlan.routes_decide.mpr ⟨Placeholder.seen_recording initial f, hf, ?_⟩
    rw [hr.splitTunneling] at hroute
    rw [hp.splitTunneling]
    exact hroute.imp_right (mem_routed_placeholder hr)
  · obtain ⟨-, -, hblocked | hrouted⟩ := FamilyPlan.routes_decide.mp ha
    · rwa [hp.splitTunneling, hsplit] at hblocked
    · have hnot := (FamilyPlan.mem_routed.mp hrouted).2.1
      rw [hp.excluded, hexcluded] at hnot
      exact absurd hex hnot

/-- A profile `p` that limits one family and blocks the other. -/
theorem placeholder_covers_limited :
    ∃ p initial, p.includedSubnets = some "10.0.0.0/8" ∧
      p.excludedSubnets = some "10.1.0.0/16 ::/0" ∧ p.splitTunneling.blocks .ipv6 = true ∧
      start p "owner" = .ok initial ∧
      ∀ (facts : List Fact) f a, ((facts.foldl learn initial).plan f).Routes a →
        ((Placeholder.recording initial).plan f).Routes a := by
  obtain ⟨included, hi⟩ : ∃ s, AddressSet.parse "10.0.0.0/8" = .ok s := ⟨_, rfl⟩
  obtain ⟨excluded, he⟩ : ∃ s, AddressSet.parse "10.1.0.0/16 ::/0" = .ok s := ⟨_, rfl⟩
  have hblocks : (SplitTunneling.mk (SplitTunneling.flag .ipv6)).blocks .ipv6 = true := by decide
  let p : Profile := {
    includedSubnets := some "10.0.0.0/8"
    excludedSubnets := some "10.1.0.0/16 ::/0"
    splitTunneling := ⟨SplitTunneling.flag .ipv6⟩ }
  obtain ⟨initial, hstart, h⟩ := placeholder_covers (p := p) hi he "owner"
  exact ⟨p, initial, rfl, rfl, hblocks, hstart, fun facts f => (h facts f).2.1⟩

end Recording

end SplitTunnel
