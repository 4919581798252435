import SplitTunnel.Proofs.Platform.Sequence

/-!
# What is lost with rejected routes (`SPEC_FULL.md` §4.2, tolerance for multicast)

A route may be rejected if it starts in the multicast space. One block starts there and goes on
behind it: the last eighth of IPv4, whose second half is no multicast space.

* `Block.multicast`, `Address.isMulticast_iff`: the multicast space of a family.
* `Block.mem_of_isMulticast`: the addresses of a block that starts in it.
* `Recording.filterMap_route?_requests`, `Recording.answer_eq_of_mem`: the routes among the
  requests, and that an address is in one of them only.
* `Recording.routes_taken`: if all is well, every other planned address is in a route that was
  taken, but for that half, and `Recording.lastSixteenth_lost`: that half may indeed be lost.
-/

namespace SplitTunnel

open Net

namespace Net

/-! ## The multicast space -/

/-- The multicast space of a family, `224.0.0.0/4` and `ff00::/8`. -/
def Block.multicast : Family → Block
  | .ipv4 => ⟨⟨.ipv4, 0xE0000000, by decide⟩, 4, by decide, by decide⟩
  | .ipv6 => ⟨⟨.ipv6, 0xFF000000000000000000000000000000, by decide⟩, 8, by decide, by decide⟩

/-- The last eighth of IPv4, `224.0.0.0/3`. -/
def Block.lastEighth : Block := ⟨⟨.ipv4, 0xE0000000, by decide⟩, 3, by decide, by decide⟩

/-- The last sixteenth of IPv4, `240.0.0.0/4`, which is what `lastEighth` has besides the multicast
space. -/
def Block.lastSixteenth : Block := ⟨⟨.ipv4, 0xF0000000, by decide⟩, 4, by decide, by decide⟩

namespace Block

variable {b : Block} {a : Address}

theorem mem_multicast_ipv4 : a ∈ multicast .ipv4 ↔
    a.family = .ipv4 ∧ 0xE0000000 ≤ a.value ∧ a.value < 0xF0000000 := by
  rw [mem_iff_bounds]
  exact and_congr_right fun _ => Iff.rfl

/-- A block `b` that ends with its family has all addresses from its first one on. -/
theorem mem_iff_of_last (hb : b.base.value + 2 ^ b.hostBits = b.family.size) :
    a ∈ b ↔ a.family = b.family ∧ b.base.value ≤ a.value := by
  rw [mem_iff_bounds, hb]
  exact and_congr_right fun hf => and_iff_left (hf ▸ a.value_lt)

theorem mem_multicast_ipv6 :
    a ∈ multicast .ipv6 ↔ a.family = .ipv6 ∧ 0xFF000000000000000000000000000000 ≤ a.value :=
  mem_iff_of_last rfl

theorem mem_lastEighth : a ∈ lastEighth ↔ a.family = .ipv4 ∧ 0xE0000000 ≤ a.value :=
  mem_iff_of_last rfl

theorem mem_lastSixteenth : a ∈ lastSixteenth ↔ a.family = .ipv4 ∧ 0xF0000000 ≤ a.value :=
  mem_iff_of_last rfl

end Block

theorem Address.isMulticast_iff {a : Address} :
    a.isMulticast = true ↔ a ∈ Block.multicast a.family := by
  obtain ⟨f, n, hn⟩ := a
  cases f
  · simp only [isMulticast, Family.width, Block.mem_multicast_ipv4, beq_iff_eq, true_and]
    omega
  · simp only [Family.size, Family.width] at hn
    simp only [isMulticast, Family.width, Block.mem_multicast_ipv6, beq_iff_eq, true_and]
    omega

namespace Block

variable {b : Block} {a : Address}

/-- Of the IPv4 blocks that start in the multicast space, `lastEighth` is the only one that is
larger than the space: its start is a multiple of no larger power of two. -/
theorem eq_lastEighth {n length : Nat} {hn : n < Family.ipv4.size}
    {hlength : length ≤ Family.ipv4.width} {hdvd : 2 ^ (Family.ipv4.width - length) ∣ n}
    (hlo : 0xE0000000 ≤ n) (hhi : n < 0xF0000000) (hlt : length < 4) :
    (⟨⟨.ipv4, n, hn⟩, length, hlength, hdvd⟩ : Block) = lastEighth := by
  have hpow {k : Nat} (hk : length ≤ k) : 2 ^ (32 - k) ∣ n :=
    Nat.dvd_trans (Nat.pow_dvd_pow 2 (Nat.sub_le_sub_left hk 32)) hdvd
  have hbase : n = 0xE0000000 := by
    have h29 : 2 ^ 29 ∣ n := hpow (k := 3) (by omega)
    omega
  have hthree : length = 3 := by
    by_contra hne
    have h30 : 2 ^ 30 ∣ n := hpow (k := 2) (by omega)
    omega
  subst hbase hthree
  rfl

/-- A block `b` that starts in the multicast space ends there, too, or it is `lastEighth`. -/
theorem mem_of_isMulticast (hb : b.isMulticast = true) (ha : a ∈ b) :
    a ∈ multicast a.family ∨ b = lastEighth ∧ a ∈ lastSixteenth := by
  have hbase := Address.isMulticast_iff.mp hb
  obtain ⟨hf, hlo, hhi⟩ := mem_iff_bounds.mp ha
  have hdvd := b.dvd_base_value
  obtain ⟨⟨f, n, hn⟩, length, hlength, haligned⟩ := b
  rw [hf]
  cases f with
  | ipv4 =>
    obtain ⟨-, hbase_lo, hbase_hi⟩ := mem_multicast_ipv4.mp hbase
    rcases Nat.lt_or_ge length 4 with hlt | hge
    · by_cases hvalue : a.value < 0xF0000000
      · exact .inl (mem_multicast_ipv4.mpr ⟨hf, Nat.le_trans hbase_lo hlo, hvalue⟩)
      · right
        exact ⟨eq_lastEighth hbase_lo hbase_hi hlt,
          mem_lastSixteenth.mpr ⟨hf, Nat.le_of_not_lt hvalue⟩⟩
    · left
      have hend : n + 2 ^ (32 - length) ≤ 0xF0000000 :=
        add_two_pow_le_of_lt hdvd (by decide : 2 ^ 28 ∣ 0xF0000000) (by omega) hbase_hi
      exact mem_multicast_ipv4.mpr ⟨hf, Nat.le_trans hbase_lo hlo, Nat.lt_of_lt_of_le hhi hend⟩
  | ipv6 =>
    have hbase_lo := (mem_multicast_ipv6.mp hbase).2
    exact .inl (mem_multicast_ipv6.mpr ⟨hf, Nat.le_trans hbase_lo hlo⟩)

end Block

end Net

/-! ## The routes among the requests -/

namespace Request

variable {r : Request} {b : Block}

/-- The route that a `Request` asks for. -/
def route? : Request → Option Block
  | route b => some b
  | _ => none

theorem route?_eq_some_iff : r.route? = some b ↔ r = route b := by
  cases r <;> simp [route?]

/-- A request that is put as the route `b` asks for it. -/
theorem eq_route_of_call_eq (h : r.call = .addRoute b.base b.prefixLength) : r = route b := by
  cases r with
  | route b' =>
    injection h with hbase hlength
    rw [Block.ext hbase hlength]
  | _ => cases h

end Request

/-- If `x` and `y` ask for routes, these have no common address. -/
def Put.Apart (x y : Put) : Prop :=
  ∀ b, x.request.route? = some b → ∀ b', y.request.route? = some b' → b.Disjoint b'

instance : Std.Symm Put.Apart := ⟨fun _ _ h b hb b' hb' => (h b' hb' b hb).symm⟩

theorem Put.event_route_mem {j : Nat} {b : Block} {answer : Option Rejection} {puts : List Put} :
    Event.called j (.addRoute b.base b.prefixLength) answer ∈ puts.map (event j) ↔
      ⟨.route b, answer⟩ ∈ puts := by
  constructor
  · intro h
    obtain ⟨⟨r, refusal⟩, hx, he⟩ := List.mem_map.mp h
    injection he with hj hcall hrefusal
    obtain rfl : r = .route b := Request.eq_route_of_call_eq hcall
    obtain rfl : refusal = answer := hrefusal
    exact hx
  · exact List.mem_map_of_mem

namespace Recording

variable {r : Recording} {c : Capabilities} {f : Family} {b b' : Block} {a : Address}
  {puts : List Put} {answer answer' : Option Rejection}

/-- The routes that `requests` ask for are those of the plans, IPv4 first. -/
theorem filterMap_route?_requests (r : Recording) (c : Capabilities) :
    (r.requests c).filterMap Request.route? = (r.plan .ipv4).routes ++ (r.plan .ipv6).routes := by
  have haddresses : (r.addresses.map Request.address).filterMap Request.route? = [] := by
    simp [Request.route?]
  have hfamily (f : Family) :
      (r.familyRequests c f).filterMap Request.route? = (r.plan f).routes := by
    unfold familyRequests
    split <;> simp [Request.route?, List.filterMap_map, Function.comp_def]
  have happs : (if c.perAppScoping then r.appScope.requests else []).filterMap Request.route? =
      [] := by
    split
    · cases r.appScope <;> simp [AppScope.requests, Request.route?]
    · rfl
  have hfamilies : (Family.all.flatMap (r.familyRequests c)).filterMap Request.route? =
      (r.plan .ipv4).routes ++ (r.plan .ipv6).routes := by
    simp [Family.all, hfamily]
  rw [requests, List.filterMap_append, List.filterMap_append, List.filterMap_append, haddresses,
    hfamilies, happs]
  simp [Request.route?]

theorem route_mem_requests : .route b ∈ r.requests c ↔ ∃ f, b ∈ (r.plan f).routes := by
  have hmem : .route b ∈ r.requests c ↔ b ∈ (r.requests c).filterMap Request.route? := by
    simp [List.mem_filterMap, Request.route?_eq_some_iff]
  rw [hmem, filterMap_route?_requests, List.mem_append]
  exact ⟨fun h => h.elim (⟨.ipv4, ·⟩) (⟨.ipv6, ·⟩), fun ⟨f, h⟩ => by cases f <;> simp [h]⟩

theorem pairwise_route?_requests (r : Recording) (c : Capabilities) :
    ((r.requests c).filterMap Request.route?).Pairwise Block.Before := by
  rw [filterMap_route?_requests]
  refine List.pairwise_append.mpr ⟨r.pairwise_routes .ipv4, r.pairwise_routes .ipv6,
    fun b hb b' hb' => .inl ?_⟩
  rw [plan_of_mem_routes hb, plan_of_mem_routes hb']
  decide

/-- An address `a` is in one route only, and that is put once. -/
theorem answer_eq_of_mem (hall : puts.map Put.request = r.requests c)
    (hb : ⟨.route b, answer⟩ ∈ puts) (hb' : ⟨.route b', answer'⟩ ∈ puts) (ha : a ∈ b)
    (ha' : a ∈ b') : answer = answer' := by
  have hapart : puts.Pairwise Put.Apart := by
    have hroutes := (r.pairwise_route?_requests c).imp Block.Before.disjoint
    rw [← hall, List.filterMap_map, List.pairwise_filterMap] at hroutes
    exact hroutes
  by_contra hne
  have hdisjoint := hapart.forall hb hb' fun he => hne (congrArg Put.refusal he)
  exact hdisjoint b rfl b' rfl a ⟨ha, ha'⟩

/-- If all is well, an address that `r` routes and that is not a multicast one is in a route that
the builder took, but for one case: it is in `lastSixteenth`, and the builder refused `lastEighth`.
-/
theorem routes_taken {p : Platform} {h : Host} {j : Nat}
    (hok : (h.submitAll p j (r.requests c)).2 = .ok ()) :
    ∃ news, Host.Told j h (h.submitAll p j (r.requests c)).1 news ∧
      ∀ f a, (r.plan f).Routes a → (∀ g, a ∉ Block.multicast g) →
        ((∃ b : Block, .called j (.addRoute b.base b.prefixLength) none ∈ news ∧ a ∈ b) ↔
          ¬ (a ∈ Block.lastSixteenth ∧ ∃ cause,
            .called j (.addRoute Block.lastEighth.base 3) (some cause) ∈ news)) := by
  obtain ⟨puts, htold, -, hends⟩ := Host.submitAll_puts p h j (r.requests c)
  obtain ⟨hall, hpass⟩ := hends.of_ok hok
  have hlast {cause : Rejection} :
      Event.called j (.addRoute Block.lastEighth.base 3) (some cause) ∈ puts.map (Put.event j) ↔
        ⟨.route .lastEighth, some cause⟩ ∈ puts := Put.event_route_mem
  refine ⟨_, htold, fun f a hroutes hnone => ?_⟩
  simp only [Put.event_route_mem, hlast]
  constructor
  · rintro ⟨b, hb, hab⟩ ⟨ha, cause, hcause⟩
    have hin : a ∈ Block.lastEighth :=
      Block.mem_lastEighth.mpr ((Block.mem_lastSixteenth.mp ha).imp_right fun h => by omega)
    cases answer_eq_of_mem hall hb hcause hab hin
  · intro hkept
    obtain ⟨b, hb, hab⟩ := hroutes
    have hput : Request.route b ∈ puts.map Put.request := hall ▸ route_mem_requests.mpr ⟨f, hb⟩
    obtain ⟨⟨request, refusal⟩, hx, rfl⟩ := List.mem_map.mp hput
    -- A rejection was tolerated, so the route starts in the multicast space. It ends there, or it
    -- is the one block that does not.
    cases refusal with
    | none => exact ⟨b, hx, hab⟩
    | some cause =>
      have hmulticast : b.isMulticast = true := hpass _ hx cause rfl
      rcases Block.mem_of_isMulticast hmulticast hab with hmem | ⟨rfl, ha⟩
      · exact absurd hmem (hnone a.family)
      · exact absurd ⟨ha, cause, hx⟩ hkept

/-- `10.0.0.0/8`. -/
def net10 : Block := ⟨⟨.ipv4, 0x0A000000, by decide⟩, 8, by decide, by decide⟩

/-- An interface with an IPv4 address and two routes, one of them `lastEighth`. -/
def toLastEighth : Recording :=
  [Fact.address ⟨⟨.ipv4, 0x0A0A0002, by decide⟩, 32, by decide⟩, .route net10,
    .route .lastEighth].foldl learn (blank "owner")

/-- A platform that takes everything but `lastEighth`. -/
def withoutLastEighth : Platform :=
  .refusing (.addRoute Block.lastEighth.base 3) (.invalidArgument "224.0.0.0/3")

theorem ok_toLastEighth :
    (Host.submitAll withoutLastEighth {} 0 (toLastEighth.requests {})).2 = .ok () := by
  decide +kernel

theorem events_toLastEighth :
    (Host.submitAll withoutLastEighth {} 0 (toLastEighth.requests {})).1.events =
      [⟨.address ⟨⟨.ipv4, 0x0A0A0002, by decide⟩, 32, by decide⟩, none⟩, ⟨.route net10, none⟩,
        ⟨.route .lastEighth, some (.invalidArgument "224.0.0.0/3")⟩, ⟨.bypass .ipv6, none⟩,
        ⟨.leaveOut "owner", none⟩, ⟨.mtu 1500, none⟩].map (Put.event 0) := by
  decide +kernel

theorem routes_toLastEighth (ha : a ∈ net10 ∨ a ∈ Block.lastEighth) :
    (toLastEighth.plan .ipv4).Routes a := by
  have hroutes : (toLastEighth.plan .ipv4).routes = [net10, .lastEighth] := by decide +kernel
  unfold FamilyPlan.Routes
  rw [hroutes]
  simpa using ha

/-- `lastSixteenth` is to be routed and no multicast space, and all is well without it. -/
theorem lastSixteenth_lost :
    let out := Host.submitAll withoutLastEighth {} 0 (toLastEighth.requests {})
    out.2 = .ok () ∧ (toLastEighth.plan .ipv4).Routes Block.lastSixteenth.base ∧
      (∀ f, Block.lastSixteenth.base ∉ Block.multicast f) ∧
      ∀ b : Block, .called 0 (.addRoute b.base b.prefixLength) none ∈ out.1.events →
        Block.lastSixteenth.base ∉ b := by
  refine ⟨ok_toLastEighth, routes_toLastEighth (by decide), fun f => by cases f <;> decide,
    fun b hb => ?_⟩
  rw [events_toLastEighth, Put.event_route_mem] at hb
  obtain rfl : b = net10 := by simpa using hb
  decide

/-- A builder `withoutLastEighth` takes the rest of what is to be routed. -/
theorem routes_taken_withoutLastEighth :
    let out := Host.submitAll withoutLastEighth {} 0 (toLastEighth.requests {})
    out.2 = .ok () ∧ ∃ news, Host.Told 0 {} out.1 news ∧
      (∃ b : Block, .called 0 (.addRoute b.base b.prefixLength) none ∈ news ∧ net10.base ∈ b) ∧
      ¬ ∃ b : Block, .called 0 (.addRoute b.base b.prefixLength) none ∈ news ∧
        Block.lastSixteenth.base ∈ b := by
  intro out
  obtain ⟨news, htold, hiff⟩ := routes_taken ok_toLastEighth
  have hnews : news = out.1.events := htold.events.symm
  have hrefused : .called 0 (.addRoute Block.lastEighth.base 3)
      (some (.invalidArgument "224.0.0.0/3")) ∈ news := by
    rw [hnews, events_toLastEighth]
    simp [Put.event, Request.call, Block.lastEighth]
  have hnet10 := hiff .ipv4 net10.base (routes_toLastEighth (by decide)) fun f => by
    cases f <;> decide
  have hlost := hiff .ipv4 Block.lastSixteenth.base (routes_toLastEighth (by decide)) fun f => by
    cases f <;> decide
  refine ⟨ok_toLastEighth, news, htold, hnet10.mpr fun h => ?_, fun htaken => ?_⟩
  · exact absurd h.1 (by decide)
  · exact hlost.mp htaken ⟨by decide, _, hrefused⟩

end Recording

end SplitTunnel
