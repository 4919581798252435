import SplitTunnel.Proofs.Platform.Builders
import SplitTunnel.Proofs.Policy.Growth

/-!
# In which order a builder is told of a recording (`SPEC_FULL.md` §4.2, the order of calls)

* `Recording.calls`: all calls that a recording makes of a builder, and
  `Recording.map_call_requests`: that its requests are put as these.
* `Recording.addresses_foldl_learn`, `Recording.pairwise_routes`: the order of addresses and routes.
* `Call.Fatal`, `Call.Reports`: which rejections end it, and what is reported then.
* `Recording.calls_in_order`: a builder is told these calls one by one, up to the first whose
  rejection is fatal, and `Recording.calls_all_made`: that all are made does not say that the last
  one was taken.
-/

namespace SplitTunnel

open Net

/-! ## The calls -/

/-- The address that the interface gets with a fact. -/
def Recording.Fact.assigned? : Recording.Fact → Option InterfaceAddress
  | .address a => some a
  | _ => none

/-- How an app is named to a builder. -/
def AppScope.call : AppScope → String → Call
  | allBut _ => .disallowApp
  | only _ => .allowApp

theorem AppScope.map_call_requests (s : AppScope) :
    s.requests.map Request.call = s.apps.toList.map s.call := by
  cases s <;> exact List.map_map

namespace Recording

variable {r : Recording} {c : Capabilities} {f : Family}

/-- The calls about the traffic of the family `f`. -/
def familyCalls (r : Recording) (c : Capabilities) (f : Family) : List Call :=
  (r.plan f).routes.map (fun b => .addRoute b.base b.prefixLength) ++
    if (r.plan f).bypass && c.familyBypass then [.allowFamily f] else []

/-- The calls about `r`, in order: the addresses with all their bits, the traffic of IPv4 and of
IPv6, the apps, and the size of packets. -/
def calls (r : Recording) (c : Capabilities) : List Call :=
  r.addresses.map (fun a => .addAddress a.address a.prefixLength) ++
    (r.familyCalls c .ipv4 ++ r.familyCalls c .ipv6) ++
    (if c.perAppScoping then r.appScope.apps.toList.map r.appScope.call else []) ++ [.setMtu r.mtu]

theorem map_call_familyRequests (r : Recording) (c : Capabilities) (f : Family) :
    (r.familyRequests c f).map Request.call = r.familyCalls c f := by
  rw [familyRequests, familyCalls, List.map_append, List.map_map]
  refine congrArg (_ ++ ·) ?_
  split <;> rfl

/-- `r.requests c` are put as `r.calls c`. -/
theorem map_call_requests (r : Recording) (c : Capabilities) :
    (r.requests c).map Request.call = r.calls c := by
  have hfamilies : (Family.all.flatMap (r.familyRequests c)).map Request.call =
      r.familyCalls c .ipv4 ++ r.familyCalls c .ipv6 := by
    simp [Family.all, map_call_familyRequests]
  have happs : (if c.perAppScoping then r.appScope.requests else []).map Request.call =
      if c.perAppScoping then r.appScope.apps.toList.map r.appScope.call else [] := by
    split
    · exact r.appScope.map_call_requests
    · rfl
  rw [requests, calls, List.map_append, List.map_append, List.map_append, hfamilies, happs,
    List.map_map]
  rfl

theorem addresses_see (r : Recording) (f : Family) : (r.see f).addresses = r.addresses := by
  cases f <;> rfl

theorem addresses_learn (r : Recording) (fact : Fact) :
    (r.learn fact).addresses = r.addresses ++ fact.assigned?.toList := by
  cases fact with
  | address a => exact addresses_see _ _
  | dnsServer | family => exact (addresses_see _ _).trans (List.append_nil _).symm
  | route | mtu => exact (List.append_nil _).symm

/-- The addresses of a recording are held in the order in which `facts` brought them. -/
theorem addresses_foldl_learn (r : Recording) (facts : List Fact) :
    (facts.foldl learn r).addresses = r.addresses ++ facts.filterMap Fact.assigned? := by
  induction facts generalizing r with
  | nil => exact (List.append_nil _).symm
  | cons fact rest ih =>
    rw [List.foldl_cons, ih, addresses_learn, List.append_assoc]
    cases h : fact.assigned? <;> simp [h]

/-- The routes of a family `f` are in ascending order. -/
theorem pairwise_routes (r : Recording) (f : Family) :
    (r.plan f).routes.Pairwise Block.Before := by
  unfold plan
  generalize r.splitTunneling.blocks f = blocked, r.seen f = seen
  cases blocked <;> cases seen
  · exact .nil
  · exact AddressSet.pairwise_subnets _
  · exact .nil
  · exact List.pairwise_singleton ..

end Recording

/-! ## Rejections -/

/-- The interface cannot do without the call: it was not rejected for a route that starts in the
multicast space, and not for an app that is unknown. -/
def Call.Fatal : Call → Rejection → Prop
  | addRoute base _, _ => base.isMulticast = false
  | disallowApp _, .unknownApplication _ | allowApp _, .unknownApplication _ => False
  | _, _ => True

/-- `e` is the error for the call's rejection: of a route, that the route was rejected. -/
def Call.Reports (cause : Rejection) (e : EstablishError) : Call → Prop
  | addRoute base n => ∃ b : Block, b.base = base ∧ b.prefixLength = n ∧ e = .routeRejected b cause
  | _ => e = .configurationRejected cause

namespace Request

variable {r : Request} {cause : Rejection}

theorem tolerates_eq_false_iff : r.tolerates cause = false ↔ r.call.Fatal cause := by
  cases r <;> cases cause <;> simp [tolerates, call, Call.Fatal, Block.isMulticast]

theorem reports_failure (r : Request) (cause : Rejection) :
    r.call.Reports cause (r.failure cause) := by
  cases r with
  | route b => exact ⟨b, rfl, rfl, rfl⟩
  | _ => rfl

end Request

namespace Put

variable {p : Platform} {j : Nat} {events : List Event} {requests : List Request}
  {before after puts : List Put} {x : Put} {result : Except EstablishError Unit}
  {e : EstablishError}

/-- The answer to `x` is that of `p`, by all that happened before that builder was asked. -/
theorem AnsweredBy.refusal_eq (h : AnsweredBy p j events (before ++ x :: after)) :
    x.refusal = p.answerTo (events ++ before.map (event j)) j x.request.call := by
  induction before generalizing events with
  | nil =>
    rw [List.map_nil, List.append_nil]
    exact h.1
  | cons y rest ih =>
    have hrest := ih h.2
    rwa [List.append_assoc] at hrest

theorem Passes.not_fatal (h : x.Passes) {cause : Rejection} (hx : x.refusal = some cause) :
    ¬ x.request.call.Fatal cause := by
  rw [← Request.tolerates_eq_false_iff, h cause hx]
  exact Bool.true_eq_false.mp

/-- Only the last of `puts` can fail to pass. -/
theorem Ends.passes_dropLast (h : Ends requests puts result) : ∀ x ∈ puts.dropLast, x.Passes := by
  cases h with
  | all hall hpass => exact fun x hx => hpass x (List.dropLast_subset _ hx)
  | refused hpass hr =>
    rw [List.dropLast_concat]
    exact hpass

theorem Ends.of_error (h : Ends requests puts (.error e)) : ∃ r cause,
    puts.getLast? = some ⟨r, some cause⟩ ∧ r.tolerates cause = false ∧ e = r.failure cause := by
  cases h with
  | @refused before r cause rest hpass hr => exact ⟨r, cause, List.getLast?_concat, hr, rfl⟩

/-- If the last of `puts` is taken, all is well. -/
theorem Ends.ok_of_getLast? (h : Ends requests puts result) (hx : puts.getLast? = some x)
    (hnone : x.refusal = none) : result = .ok () := by
  cases result with
  | ok => rfl
  | error e =>
    obtain ⟨r, cause, hlast, -, -⟩ := h.of_error
    rw [hx] at hlast
    cases hlast
    cases hnone

/-- If all is well and the request `last` must not be rejected, it is taken. -/
theorem Ends.getLast?_of_ok {last : Request} (h : Ends (requests ++ [last]) puts (.ok ()))
    (hlast : ∀ cause, last.tolerates cause = false) : puts.getLast? = some ⟨last, none⟩ := by
  obtain ⟨hall, hpass⟩ := h.of_ok rfl
  have hmap : puts.getLast?.map request = some last := by
    rw [← List.getLast?_map, hall, List.getLast?_concat]
  obtain ⟨⟨r, refusal⟩, hx, rfl⟩ := Option.map_eq_some_iff.mp hmap
  cases refusal with
  | none => exact hx
  | some cause =>
    have htolerated := hpass _ (List.mem_of_getLast? hx) cause rfl
    rw [hlast cause] at htolerated
    cases htolerated

end Put

namespace Recording

/-- The addresses of the recording `r` are in the order in which they were learned, the routes of
each family and the apps are ascending. A builder is told of `r.calls c` one by one, each answered
by what happened before; none but the last is answered by a fatal rejection. All is well if and only
if all calls were made and the last of them, the size of packets, was taken; and an error is that of
the last call made, which got a fatal rejection. -/
theorem calls_in_order (r : Recording) (c : Capabilities) (p : Platform) (h : Host) (j : Nat) :
    (∀ facts : List Fact,
      (facts.foldl learn r).addresses = r.addresses ++ facts.filterMap Fact.assigned?) ∧
    (∀ f, (r.plan f).routes.Pairwise Block.Before) ∧
    (r.appScope.apps.toList.Pairwise fun a b => compare a b = .lt) ∧
    ∃ puts : List Put,
      Host.Told j h (h.submitAll p j (r.requests c)).1 (puts.map (Put.event j)) ∧
      (∀ before x after, puts = before ++ x :: after →
        x.refusal = p.answerTo (h.events ++ before.map (Put.event j)) j x.request.call) ∧
      puts.map (·.request.call) <+: r.calls c ∧
      (∀ x ∈ puts.dropLast, ∀ cause, x.refusal = some cause → ¬ x.request.call.Fatal cause) ∧
      ((h.submitAll p j (r.requests c)).2 = .ok () ↔ puts.map (·.request.call) = r.calls c ∧
        ∃ x, puts.getLast? = some x ∧ x.request.call = .setMtu r.mtu ∧ x.refusal = none) ∧
      ∀ e, (h.submitAll p j (r.requests c)).2 = .error e → ∃ x cause,
        puts.getLast? = some x ∧ x.refusal = some cause ∧ x.request.call.Fatal cause ∧
          x.request.call.Reports cause e := by
  obtain ⟨puts, htold, hanswered, hends⟩ := Host.submitAll_puts p h j (r.requests c)
  have hcalls : puts.map (·.request.call) = (puts.map Put.request).map Request.call := by
    rw [List.map_map]
    rfl
  refine ⟨addresses_foldl_learn r, pairwise_routes r, r.appScope.apps.ascending, puts, htold, ?_,
    ?_, fun x hx cause => (hends.passes_dropLast x hx).not_fatal, ?_, ?_⟩
  · rintro before x after rfl
    exact hanswered.refusal_eq
  · rw [hcalls, ← map_call_requests]
    exact hends.request_prefix.map _
  · constructor
    · intro hok
      rw [hok] at hends
      refine ⟨?_, ⟨.mtu r.mtu, none⟩, hends.getLast?_of_ok fun cause => rfl, rfl, rfl⟩
      rw [hcalls, (hends.of_ok rfl).1, map_call_requests]
    · rintro ⟨-, x, hx, -, hnone⟩
      exact hends.ok_of_getLast? hx hnone
  · intro e he
    rw [he] at hends
    obtain ⟨request, cause, hlast, hr, rfl⟩ := hends.of_error
    exact ⟨_, cause, hlast, rfl, Request.tolerates_eq_false_iff.mp hr,
      request.reports_failure cause⟩

/-- What is known of the interface for a profile that says nothing. -/
def blank (owningApp : String) : Recording where
  included := .empty
  excluded := .empty
  splitTunneling := .none
  appScope := .allBut (.singleton owningApp)
  mtu := defaultMtu

theorem start_blank (owningApp : String) : start {} owningApp = .ok (blank owningApp) := rfl

/-- A builder that refuses nothing but the size of packets is told all of `r`, and yet the interface
does not come up. -/
theorem calls_all_made :
    let r := blank "owner"
    let p := Platform.refusing (.setMtu 1500) (.invalidArgument "1500")
    let puts : List Put := [⟨.bypass .ipv4, none⟩, ⟨.bypass .ipv6, none⟩, ⟨.leaveOut "owner", none⟩,
      ⟨.mtu 1500, some (.invalidArgument "1500")⟩]
    start {} "owner" = .ok r ∧
    (Host.submitAll p {} 0 (r.requests {})).1.events = puts.map (Put.event 0) ∧
    puts.map (·.request.call) = r.calls {} ∧
    (Host.submitAll p {} 0 (r.requests {})).2 =
      .error (.configurationRejected (.invalidArgument "1500")) :=
  ⟨start_blank "owner", by decide, by decide, by decide⟩

end Recording

end SplitTunnel
