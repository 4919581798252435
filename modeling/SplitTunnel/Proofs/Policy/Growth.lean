import SplitTunnel.Policy.Request
import SplitTunnel.Proofs.Policy.Placeholder

/-!
# A recording that knows more routes more (`SPEC_FULL.md` §4.2, the accumulator)

* `Recording.Grows`: a recording has been told more, and `Recording.Grows.routes`: it routes what it
  routed before.
* `Recording.seen_learn`, `Recording.mem_pushed_learn`: the families and the pushed addresses that
  one fact adds.
* `Call.FitsIn`: a call sends no traffic where a recording does not send it.
* `Recording.mem_requests`: what a recording asks for.
* `Recording.fitsIn_requests`: what a recording asks for fits in it, and with `Call.FitsIn.grow` in
  every later one.
-/

namespace SplitTunnel

open Net

namespace Recording

variable {r r' : Recording} {f : Family} {a : Address}

/-- `r'` is for the same subnets as `r` and has seen and been pushed at least as much. -/
structure Grows (r r' : Recording) : Prop where
  limits : SameLimits r r'
  seen : ∀ f, r.seen f = true → r'.seen f = true
  pushed : ∀ a ∈ r.pushed, a ∈ r'.pushed

theorem Grows.refl (r : Recording) : Grows r r := ⟨.refl r, fun _ h => h, fun _ h => h⟩

/-- The fact has an address of the family `f`, so the tunnel carries the family. -/
def Fact.Shows (f : Family) : Fact → Prop
  | .address a => a.address.family = f
  | .dnsServer a | .family a => a.family = f
  | .route _ | .mtu _ => False

/-- The fact says that `a` is behind the gateway. -/
def Fact.Pushes (a : Address) : Fact → Prop
  | .route b => a ∈ b
  | _ => False

theorem seen_see {g : Family} : (r.see g).seen f = true ↔ r.seen f = true ∨ g = f := by
  cases g <;> cases f <;> simp [see, seen]

theorem pushed_see (r : Recording) (f : Family) : (r.see f).pushed = r.pushed := by
  cases f <;> rfl

theorem seen_learn {fact : Fact} :
    (r.learn fact).seen f = true ↔ r.seen f = true ∨ fact.Shows f := by
  have hsame {addresses : List InterfaceAddress} {pushed : AddressSet}
      {dnsServers : List Address} {mtu : UInt16} :
      ({ r with addresses, pushed, dnsServers, mtu } : Recording).seen f = r.seen f := by
    cases f <;> rfl
  cases fact with
  | address a => exact seen_see.trans (by rw [hsame]; rfl)
  | dnsServer a => exact seen_see.trans (by rw [hsame]; rfl)
  | family a => exact seen_see
  | route b => simp only [learn, addRoute, hsame, Fact.Shows, or_false]
  | mtu n => simp only [learn, setMtu, hsame, Fact.Shows, or_false]

theorem mem_pushed_learn {fact : Fact} :
    a ∈ (r.learn fact).pushed ↔ a ∈ r.pushed ∨ fact.Pushes a := by
  cases fact with
  | route b => exact AddressSet.mem_add.trans or_comm
  | address | dnsServer | family =>
    simp only [learn, addAddress, addDnsServer, pushed_see, Fact.Pushes, or_false]
  | mtu n => exact (or_iff_left id).symm

/-- `learn` takes nothing back. -/
theorem grows_learn (r : Recording) (fact : Fact) : Grows r (r.learn fact) :=
  ⟨sameLimits_learn r fact, fun _ hf => seen_learn.mpr (.inl hf),
    fun _ ha => mem_pushed_learn.mpr (.inl ha)⟩

/-- What `r` routes is routed by `r'`: the family `f` is still seen, and if its pushed addresses are
routed, there are at least as many. -/
theorem Grows.routes (h : Grows r r') (ha : (r.plan f).Routes a) : (r'.plan f).Routes a := by
  obtain ⟨hseen, hf, hroute⟩ := FamilyPlan.routes_decide.mp ha
  refine FamilyPlan.routes_decide.mpr ⟨h.seen f hseen, hf, ?_⟩
  rw [h.limits.splitTunneling]
  refine hroute.imp_right fun hrouted => ?_
  obtain ⟨-, hexcluded, hmem⟩ := FamilyPlan.mem_routed.mp hrouted
  refine FamilyPlan.mem_routed.mpr ⟨hf, h.limits.excluded ▸ hexcluded, ?_⟩
  rw [h.limits.included]
  exact hmem.imp_right fun ⟨hnone, hpushed⟩ => ⟨hnone, h.pushed a hpushed⟩

end Recording

/-- A route leads only where the plan of `r` for its family leads, and no family that `r` blocks may
go past the tunnel. -/
def Call.FitsIn (r : Recording) : Call → Prop
  | addRoute base n => ∃ b : Block, b.base = base ∧ b.prefixLength = n ∧
      ∀ a ∈ b, (r.plan b.family).Routes a
  | allowFamily f => r.splitTunneling.blocks f = false
  | _ => True

theorem Call.FitsIn.grow {r r' : Recording} {c : Call} (h : c.FitsIn r) (hr : r.Grows r') :
    c.FitsIn r' := by
  cases c with
  | addRoute base n =>
    obtain ⟨b, hbase, hn, hroutes⟩ := h
    exact ⟨b, hbase, hn, fun a ha => hr.routes (hroutes a ha)⟩
  | allowFamily f =>
    unfold FitsIn at h ⊢
    rwa [hr.limits.splitTunneling]
  | _ => trivial

theorem AppScope.mem_requests {s : AppScope} {request : Request} : request ∈ s.requests ↔
    (∃ apps, s = .allBut apps ∧ ∃ app ∈ apps, request = .leaveOut app) ∨
      ∃ apps, s = .only apps ∧ ∃ app ∈ apps, request = .takeIn app := by
  cases s <;> simp [requests, SortedSet.mem_iff, eq_comm]

namespace Recording

variable {r : Recording} {c : Capabilities} {f : Family} {request : Request}

theorem mem_familyRequests : request ∈ r.familyRequests c f ↔
    (∃ b ∈ (r.plan f).routes, request = .route b) ∨
      request = .bypass f ∧ (r.plan f).bypass = true ∧ c.familyBypass = true := by
  unfold familyRequests
  rw [List.mem_append, List.mem_map]
  refine or_congr (exists_congr fun b => and_congr_right fun _ => eq_comm) ?_
  split
  · next h => simp_all
  · next h => simp_all

theorem mem_requests : request ∈ r.requests c ↔
    (∃ a ∈ r.addresses, request = .address a) ∨ (∃ f, request ∈ r.familyRequests c f) ∨
      (c.perAppScoping = true ∧ request ∈ r.appScope.requests) ∨ request = .mtu r.mtu := by
  have hall (f : Family) : f ∈ Family.all := by cases f <;> decide
  have happ : request ∈ (if c.perAppScoping then r.appScope.requests else []) ↔
      c.perAppScoping = true ∧ request ∈ r.appScope.requests := by
    split
    · next h => simp [h]
    · next h => simp [h]
  simp only [requests, List.mem_append, happ]
  simp only [List.mem_map, List.mem_flatMap, List.mem_singleton, hall, true_and, or_assoc,
    @eq_comm _ request]

/-- What concerns the traffic of a family comes from `familyRequests`, and what does not fits every
recording. -/
theorem mem_requests_cases (h : request ∈ r.requests c) :
    (∃ f, request ∈ r.familyRequests c f) ∨
      (∀ r' : Recording, request.call.FitsIn r') ∧ ∀ f, request.call ≠ .allowFamily f := by
  rcases mem_requests.mp h with ⟨a, -, rfl⟩ | hfamily | ⟨-, happ⟩ | rfl
  · exact .inr ⟨fun _ => trivial, nofun⟩
  · exact .inl hfamily
  · rcases AppScope.mem_requests.mp happ with ⟨_, -, app, -, rfl⟩ | ⟨_, -, app, -, rfl⟩ <;>
      exact .inr ⟨fun _ => trivial, nofun⟩
  · exact .inr ⟨fun _ => trivial, nofun⟩

theorem plan_of_mem_routes {b : Block} (h : b ∈ (r.plan f).routes) : b.family = f := by
  have hroutes : (r.plan f).Routes b.base := ⟨b, h, b.base_mem⟩
  exact (FamilyPlan.routes_decide.mp hroutes).2.1

theorem fitsIn_requests (h : request ∈ r.requests c) : request.call.FitsIn r := by
  rcases mem_requests_cases h with ⟨f, hf⟩ | ⟨hall, -⟩
  · rcases mem_familyRequests.mp hf with ⟨b, hb, rfl⟩ | ⟨rfl, hbypass, -⟩
    · refine ⟨b, rfl, rfl, fun a ha => ⟨b, ?_, ha⟩⟩
      rwa [plan_of_mem_routes hb]
    · rw [plan, FamilyPlan.bypass_decide, Bool.and_eq_true, Bool.not_eq_true'] at hbypass
      exact hbypass.1
  · exact hall r

/-- Only a family `f` that has not been seen may go past the tunnel. -/
theorem seen_of_mem_requests (h : request ∈ r.requests c) (hcall : request.call = .allowFamily f) :
    r.seen f = false := by
  rcases mem_requests_cases h with ⟨g, hg⟩ | ⟨-, hne⟩
  · rcases mem_familyRequests.mp hg with ⟨b, -, rfl⟩ | ⟨rfl, hbypass, -⟩
    · cases hcall
    · cases hcall
      rw [plan, FamilyPlan.bypass_decide, Bool.and_eq_true, Bool.not_eq_true',
        Bool.not_eq_true'] at hbypass
      exact hbypass.2
  · exact absurd hcall (hne f)

end Recording

end SplitTunnel
