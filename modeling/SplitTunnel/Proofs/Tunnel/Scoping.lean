import SplitTunnel.Proofs.Tunnel.Draft
import SplitTunnel.Proofs.Tunnel.Spent

/-!
# Which apps builders are told of (`SPEC_FULL.md` §4.2, app filtering)

A builder is made for one profile, and the profile says which apps it is told of.

* `Host.Submitted`: a builder was told something, whether or not it took it.
* `Call.Suits`, `Recording.suits_requests`: the calls that a scope and the capabilities leave room
  for, and that a recording asks for no others.
* `Host.SuitedAt`, `Host.ScopedAt`: a builder was told nothing else, and all that was asked for.
* `Tunnel.Scoped`: every builder was told only what suits some profile, and the session's builder
  what suits its profile. `Tunnel.Scoped.perform` is that every operation keeps this.
* `Tunnel.NewScoped`, `Tunnel.Scoped.newScoped_perform`: the builder of an interface that comes up
  was told all about the apps that the session's profile asks for.
* `Tunnel.apps_scoped`: what follows for every run.
-/

namespace SplitTunnel

open Host (OnlyAt)

/-! ## What suits a scope -/

/-- The apps that `v` selects, for the app that owns the tunnel. -/
def Profile.appScope (v : Profile) (owningApp : String) : AppScope :=
  .of v.selectedAppsHandling v.selectedApps owningApp

theorem AppScope.leaveOut_notMem_of_takeIn {scope : AppScope} {app app' : String}
    (h : .takeIn app ∈ scope.requests) : .leaveOut app' ∉ scope.requests := by
  cases scope <;> simp [mem_requests] at h ⊢

/-- Whom `v` has left out, and whom it has taken in. -/
theorem Profile.mem_requests_appScope (v : Profile) (owningApp app : String) :
    (v.selectedAppsHandling = .disabled →
      (.leaveOut app ∈ (v.appScope owningApp).requests ↔ app = owningApp) ∧
      .takeIn app ∉ (v.appScope owningApp).requests) ∧
    (v.selectedAppsHandling = .exclude →
      (.leaveOut app ∈ (v.appScope owningApp).requests ↔
        app = owningApp ∨ app ∈ v.selectedApps) ∧
      .takeIn app ∉ (v.appScope owningApp).requests) ∧
    (v.selectedAppsHandling = .only →
      (.takeIn app ∈ (v.appScope owningApp).requests ↔
        app ∈ v.selectedApps ∧ app ≠ owningApp) ∧
      .leaveOut app ∉ (v.appScope owningApp).requests) := by
  refine ⟨fun h => ?_, fun h => ?_, fun h => ?_⟩ <;>
    simp [appScope, AppScope.of, h, AppScope.mem_requests]

/-- `owningApp` is never taken in. -/
theorem Profile.takeIn_owningApp_notMem (v : Profile) (owningApp : String) :
    .takeIn owningApp ∉ (v.appScope owningApp).requests := by
  obtain ⟨hdisabled, hexclude, honly⟩ := v.mem_requests_appScope owningApp owningApp
  cases h : v.selectedAppsHandling with
  | disabled => exact (hdisabled h).2
  | exclude => exact (hexclude h).2
  | only => exact fun hmem => ((honly h).1.mp hmem).2 rfl

/-- There is room for the call: apps are named only where `c` allows to scope them and only as
`scope` asks, and a family is let past the tunnel only where `c` allows that. -/
def Call.Suits (c : Capabilities) (scope : AppScope) : Call → Prop
  | disallowApp app => c.perAppScoping = true ∧ .leaveOut app ∈ scope.requests
  | allowApp app => c.perAppScoping = true ∧ .takeIn app ∈ scope.requests
  | allowFamily _ => c.familyBypass = true
  | _ => True

theorem Call.suits_of_isNaming {c : Capabilities} {scope : AppScope} {call : Call}
    (h : call.isNaming = true) : call.Suits c scope := by
  cases call <;> trivial

namespace Recording

variable {r : Recording} {c : Capabilities} {request : Request}

theorem suits_requests (h : request ∈ r.requests c) : request.call.Suits c r.appScope := by
  rcases mem_requests.mp h with ⟨a, -, rfl⟩ | ⟨f, hfamily⟩ | ⟨hscoping, happ⟩ | rfl
  · trivial
  · rcases mem_familyRequests.mp hfamily with ⟨b, -, rfl⟩ | ⟨rfl, -, hbypass⟩
    · trivial
    · exact hbypass
  · rcases AppScope.mem_requests.mp happ with ⟨_, -, app, -, rfl⟩ | ⟨_, -, app, -, rfl⟩ <;>
      exact ⟨hscoping, happ⟩
  · trivial

theorem appScope_see (r : Recording) (f : Net.Family) : (r.see f).appScope = r.appScope := by
  cases f <;> rfl

theorem appScope_learn (r : Recording) (fact : Fact) : (r.learn fact).appScope = r.appScope := by
  cases fact with
  | address | dnsServer | family => exact appScope_see _ _
  | route | mtu => rfl

theorem appScope_foldl_learn (facts : List Fact) (r : Recording) :
    (facts.foldl learn r).appScope = r.appScope := by
  induction facts generalizing r with
  | nil => rfl
  | cons fact rest ih => exact (ih _).trans (appScope_learn r fact)

theorem appScope_start {v : Profile} {owningApp : String} (h : start v owningApp = .ok r) :
    r.appScope = v.appScope owningApp := by
  obtain ⟨_, _, -, -, rfl⟩ := eq_of_start h
  rfl

end Recording

namespace Tunnel.Placeholder

theorem appScope_recording (initial : Recording) :
    (recording initial).appScope = initial.appScope := rfl

/-- What is asked for before the recording has nothing to do with apps. -/
theorem suits_first {c : Capabilities} {scope : AppScope} {request : Request}
    (h : request ∈ dnsServers.map .dnsServer ++ [.blocking]) : request.call.Suits c scope := by
  rw [List.mem_append, List.mem_map, List.mem_singleton] at h
  rcases h with ⟨a, -, rfl⟩ | rfl <;> trivial

theorem suits_requests {initial : Recording} {c : Capabilities} {request : Request}
    (h : request ∈ requests initial c) : request.call.Suits c initial.appScope :=
  (List.mem_append.mp h).elim suits_first (Recording.suits_requests (r := recording initial))

end Tunnel.Placeholder

/-- Nothing that happens to a session `s` changes which apps its profile selects. -/
theorem Session.AgreesWith.appScope {s : Session} {h : Host} {owningApp : String} {a : Account}
    (hs : s.AgreesWith h owningApp a) : s.initial.appScope = s.profile.appScope owningApp ∧
      s.recording.appScope = s.profile.appScope owningApp ∧
      ∀ r, s.established = some r → r.appScope = s.profile.appScope owningApp := by
  have hinitial := Recording.appScope_start hs.initial
  refine ⟨hinitial, ?_, fun r hr => ?_⟩
  · rw [hs.recording, Recording.appScope_foldl_learn, hinitial]
  · rw [hs.established] at hr
    obtain ⟨applied, -, rfl⟩ := Option.map_eq_some_iff.mp hr
    cases applied with
    | recorded facts => rw [Applied.recording, Recording.appScope_foldl_learn, hinitial]
    | placeholder => rw [Applied.recording, Tunnel.Placeholder.appScope_recording, hinitial]

/-! ## Builders -/

namespace Host

variable {p : Platform} {h h' : Host} {j b : Nat} {c : Capabilities} {scope : AppScope}
  {requests : List Request} {call : Call}

/-- `builder` was told `call`, and took it or not. -/
def Submitted (h : Host) (builder : Nat) (call : Call) : Prop :=
  ∃ answer, .called builder call answer ∈ h.events

/-- All that `builder` was told suits `scope`. -/
def SuitedAt (h : Host) (c : Capabilities) (scope : AppScope) (builder : Nat) : Prop :=
  ∀ call, h.Submitted builder call → call.Suits c scope

/-- All that `builder` was told suits `scope`, and where apps can be scoped, it was told all that
`scope` asks for. -/
structure ScopedAt (h : Host) (c : Capabilities) (scope : AppScope) (builder : Nat) : Prop where
  suited : h.SuitedAt c scope builder
  submitted : c.perAppScoping = true → ∀ request ∈ scope.requests, h.Submitted builder request.call

/-- Where apps can be scoped, the builder `b` was told of the apps of `scope` and no others. -/
theorem ScopedAt.submitted_iff (hs : h.ScopedAt c scope b) (hc : c.perAppScoping = true)
    (app : String) :
    (h.Submitted b (.disallowApp app) ↔ .leaveOut app ∈ scope.requests) ∧
      (h.Submitted b (.allowApp app) ↔ .takeIn app ∈ scope.requests) :=
  ⟨⟨fun hcall => (hs.suited _ hcall).2, hs.submitted hc _⟩,
    fun hcall => (hs.suited _ hcall).2, hs.submitted hc _⟩

theorem submitted_iff_record :
    h.Submitted b call ↔ ∃ answer, .called call answer ∈ h.record b := by
  refine exists_congr fun answer => ?_
  rw [record, Event.record, List.mem_filterMap]
  refine ⟨fun he => ⟨_, he, if_pos rfl⟩, ?_⟩
  rintro ⟨e, he, hat⟩
  cases e with
  | called i call' answer' =>
    simp only [Event.at?, Option.ite_none_right_eq_some, Option.some.injEq,
      BuilderEvent.called.injEq] at hat
    obtain ⟨rfl, rfl, rfl⟩ := hat
    exact he
  | created i session => simp [Event.at?] at hat
  | established i outcome => simp [Event.at?] at hat
  | drained | closed => cases hat

theorem submitted_congr (hrecord : h'.record b = h.record b) :
    h'.Submitted b call ↔ h.Submitted b call := by
  rw [submitted_iff_record, submitted_iff_record, hrecord]

theorem SuitedAt.of_record (hs : h.SuitedAt c scope b) (hrecord : h'.record b = h.record b) :
    h'.SuitedAt c scope b := fun call hcall => hs call ((submitted_congr hrecord).mp hcall)

/-- A builder that `create` has just made was told nothing. -/
theorem Numbered.suitedAt_create (hn : h.Numbered) (session : String) (c : Capabilities)
    (scope : AppScope) : (h.create session).1.SuitedAt c scope (h.create session).2 := by
  intro call hcall
  rw [submitted_iff_record, hn.record_create] at hcall
  simp at hcall

theorem SuitedAt.submit (hs : h.SuitedAt c scope j) (hcall : call.Suits c scope) :
    (h.submit p j call).1.SuitedAt c scope j := by
  rintro call' ⟨answer, hmem⟩
  rw [(told_submit p h j call).events, List.mem_append, List.mem_singleton] at hmem
  rcases hmem with hmem | hmem
  · exact hs call' ⟨answer, hmem⟩
  · cases hmem
    exact hcall

theorem SuitedAt.bringUp (hs : h.SuitedAt c scope j)
    (hrequests : ∀ request ∈ requests, request.call.Suits c scope) :
    (h.bringUp p j requests).1.SuitedAt c scope j := by
  rintro call ⟨answer, hmem⟩
  have hput {puts : List Put} (hall : ∀ x ∈ puts, x.request ∈ requests)
      (hin : .called j call answer ∈ puts.map (Put.event j)) : call.Suits c scope := by
    obtain ⟨x, hx, he⟩ := List.mem_map.mp hin
    cases he
    exact hrequests _ (hall x hx)
  obtain ⟨puts, -, ⟨e, -, hends, htold⟩ | ⟨outcome, -, rfl, -, htold, -⟩⟩ :=
    bringUp_puts p h j requests
  · rw [htold.events, List.mem_append] at hmem
    exact hmem.elim (fun hold => hs call ⟨answer, hold⟩) (hput fun x => hends.request_mem)
  · rw [htold.events, List.mem_append, List.mem_append, List.mem_singleton] at hmem
    rcases hmem with hold | hin | hasked
    · exact hs call ⟨answer, hold⟩
    · exact hput (fun x => List.mem_map_of_mem) hin
    · cases hasked

/-- An interface `i` does not come up before all `requests` have been put. -/
theorem submitted_of_bringUp {i : Nat} (hup : h.bringUp p j requests = (h', .ok i))
    {request : Request} (hr : request ∈ requests) : h'.Submitted j request.call := by
  obtain ⟨puts, -, hcases⟩ := bringUp_puts p h j requests
  rw [hup] at hcases
  rcases hcases with ⟨e, he, -, -⟩ | ⟨outcome, -, rfl, -, htold, -⟩
  · cases he
  · obtain ⟨x, hx, rfl⟩ := List.mem_map.mp hr
    have hput : x.event j ∈ puts.map (Put.event j) := List.mem_map_of_mem hx
    refine ⟨x.refusal, ?_⟩
    rw [htold.events]
    exact List.mem_append_right _ (List.mem_append_left _ hput)

/-- What is asked of a new builder is nothing to another builder `b`. -/
theorem record_bringUp_create (p : Platform) (h : Host) (session : String)
    (requests : List Request) (hb : b ≠ h.builders.length) :
    ((h.create session).1.bringUp p (h.create session).2 requests).1.record b = h.record b := by
  have ha := onlyAt_bringUp p (h.create session).1 (h.create session).2 requests
  have hne : some b ≠ some (h.create session).2 := fun hsame => hb (Option.some.inj hsame)
  rw [ha.record b hne, record_create_of_ne h session hb]

end Host

namespace Tunnel

variable {p : Platform} {t t' : Tunnel} {s : Session} {a : Account} {v : Profile} {host : Host}
  {b j : Nat}

/-! ## The session's builder and the others -/

/-- Every builder of `t` was told only what suits some profile, and the session's builder only what
suits the session's. -/
structure Scoped (t : Tunnel) : Prop where
  builders : ∀ b, ∃ v : Profile, t.host.SuitedAt t.capabilities (v.appScope t.owningApp) b
  session : ∀ s, t.session = some s →
    t.host.SuitedAt t.capabilities (s.profile.appScope t.owningApp) s.builder

theorem scoped_start (allowed supported : Capabilities) (owningApp : String) :
    (start allowed supported owningApp).Scoped := by
  refine ⟨fun b => ⟨{}, ?_⟩, fun s hs => ?_⟩
  · rintro call ⟨answer, hmem⟩
    cases hmem
  · rw [start] at hs
    cases hs

/-- Something may have happened at the builder `j`, which suits the profile `v`. If that is the
session's builder now, `v` is the session's profile. -/
theorem Scoped.step (h : t.Scoped) (hcapabilities : t'.capabilities = t.capabilities)
    (howner : t'.owningApp = t.owningApp)
    (hrecord : ∀ b, b ≠ j → t'.host.record b = t.host.record b)
    (hj : t'.host.SuitedAt t.capabilities (v.appScope t.owningApp) j)
    (hsession : ∀ s', t'.session = some s' → s'.builder = j ∧ s'.profile = v ∨
      s'.builder ≠ j ∧ t.session = some s') : t'.Scoped := by
  refine ⟨fun b => ?_, fun s' hs' => ?_⟩ <;> rw [hcapabilities, howner]
  · by_cases hb : b = j
    · subst hb
      exact ⟨v, hj⟩
    · obtain ⟨w, hw⟩ := h.builders b
      exact ⟨w, hw.of_record (hrecord b hb)⟩
  · rcases hsession s' hs' with ⟨rfl, rfl⟩ | ⟨hne, hs⟩
    · exact hj
    · exact (h.session s' hs).of_record (hrecord _ hne)

theorem Scoped.of_keepsBuilders (h : t.Scoped) (hk : t.KeepsBuilders t') : t'.Scoped := by
  have hrecord (b : Nat) : t'.host.record b = t.host.record b := hk.host.record b nofun
  refine ⟨fun b => ?_, fun s hs => ?_⟩ <;> rw [hk.capabilities, hk.owningApp]
  · obtain ⟨w, hw⟩ := h.builders b
    exact ⟨w, hw.of_record (hrecord b)⟩
  · rw [hk.session] at hs
    exact (h.session s hs).of_record (hrecord _)

/-- The builder of `s` was told what suits the profile, and the session may know more. -/
theorem Scoped.ask (h : t.Scoped) (ha : OnlyAt (some s.builder) t.host host)
    (hsuited : host.SuitedAt t.capabilities (s.profile.appScope t.owningApp) s.builder) :
    ({ t with host, session := some s } : Tunnel).Scoped := by
  refine h.step rfl rfl (fun b hb => ha.record b fun he => hb (Option.some.inj he)) hsuited ?_
  rintro _ ⟨⟩
  exact .inl ⟨rfl, rfl⟩

/-- A new builder was asked for an interface for the profile of `s`. -/
theorem Scoped.bringUp_create (h : t.Scoped) (hspent : t.Spent) {requests : List Request}
    (hsuits : ∀ request ∈ requests,
      request.call.Suits t.capabilities (s.profile.appScope t.owningApp))
    {answer : Except EstablishError Nat}
    (hup : (t.host.create s.profile.name).1.bringUp p (t.host.create s.profile.name).2 requests =
      (host, answer)) : ({ t with host } : Tunnel).Scoped := by
  have hsuited := (hspent.numbered.suitedAt_create s.profile.name t.capabilities
    (s.profile.appScope t.owningApp)).bringUp (p := p) hsuits
  have hrecord {b : Nat} (hb : b ≠ t.host.builders.length) := Host.record_bringUp_create p t.host
    s.profile.name requests hb
  rw [hup] at hsuited hrecord
  refine h.step rfl rfl (fun b => hrecord) hsuited fun s' hs' => .inr ⟨?_, hs'⟩
  exact Nat.ne_of_lt (hspent.session s' hs').1

/-- The session `s` goes on with a builder that has just been made. -/
theorem Scoped.create (h : t.Scoped) (hn : t.host.Numbered) (session : String)
    (hs : s.builder = (t.host.create session).2) :
    ({ t with host := (t.host.create session).1, session := some s } : Tunnel).Scoped := by
  refine h.step rfl rfl (fun b => Host.record_create_of_ne t.host session)
    (hn.suitedAt_create session _ (s.profile.appScope t.owningApp)) ?_
  rintro _ ⟨⟩
  exact .inl ⟨hs, rfl⟩

theorem Scoped.commit (h : t.Scoped) (hn : t.host.Numbered) (hs : t.session = some s)
    (established : Recording) : (t.commit established).Scoped := by
  let renewed : Session := { s with
    builder := (t.host.create s.profile.name).2, recording := s.initial
    established := some established }
  rw [commit_eq hs]
  exact (h.create hn s.profile.name (s := renewed) rfl).of_keepsBuilders
    (keepsBuilders_lowerPlaceholder _)

/-! ### One operation -/

theorem Scoped.record (h : t.Scoped) (f : Recording → Recording) : (t.record f).1.Scoped := by
  rcases record_cases t f with ⟨-, he⟩ | ⟨s, hs, he⟩ <;> rw [he]
  · exact h
  · exact h.ask (.refl _ _) (h.session s hs)

theorem Scoped.tell (h : t.Scoped) (p : Platform) {c : Call} (hc : c.isNaming = true)
    (f : Recording → Recording) : (t.tell p c f).1.Scoped := by
  rcases tell_cases p t c f with ⟨-, he⟩ | ⟨s, host, hs, rfl, hcases⟩
  · rw [he]
    exact h
  · have ha := Host.onlyAt_submit p t.host s.builder c
    have hsuited := (h.session s hs).submit (p := p) (Call.suits_of_isNaming hc)
    rcases hcases with ⟨cause, -, -, he⟩ | ⟨-, -, he⟩ <;> rw [he]
    · have hask := h.ask ha hsuited
      rwa [← hs] at hask
    · exact h.ask ha hsuited

theorem Scoped.establish (h : t.Scoped) (hspent : t.Spent) (hagrees : t.AgreesWith a)
    (p : Platform) : (t.establish p).1.Scoped := by
  rcases establish_cases p t with ⟨-, he⟩ | ⟨s, host, hs, hcases⟩
  · rw [he]
    exact h
  obtain ⟨-, hscope, -⟩ := (hagrees s hs).appScope
  have ha := Host.onlyAt_bringUp p t.host s.builder (s.recording.requests t.capabilities)
  have hsuits : ∀ request ∈ s.recording.requests t.capabilities,
      request.call.Suits t.capabilities (s.profile.appScope t.owningApp) :=
    fun request hr => hscope ▸ Recording.suits_requests hr
  have hsuited := (h.session s hs).bringUp (p := p) hsuits
  rcases hcases with ⟨e, hup, he⟩ | ⟨i, hup, he⟩
  all_goals
    rw [hup] at ha hsuited
    have hask := h.ask ha hsuited
    rw [← hs] at hask
    rw [he]
  · exact hask
  · have hlt := (hspent.session s hs).1
    have hn := hspent.numbered.of_onlyAt ha fun i hi => Option.some.inj hi ▸ hlt
    exact hask.commit hn hs _

theorem Scoped.serve (h : t.Scoped) (hspent : t.Spent) (hagrees : t.AgreesWith a) (p : Platform)
    (r : EngineRequest) : (t.serve p r).1.Scoped := by
  by_cases hestablish : r = .establish
  · rw [hestablish, Tunnel.serve, fst_came]
    exact h.establish hspent hagrees p
  by_cases hreestablish : r = .reestablish
  · rw [hreestablish, Tunnel.serve, fst_came]
    rcases reestablish_cases p t with ⟨e, he⟩ | ⟨s, r, host, answer, hs, hr, hup, he⟩ <;> rw [he]
    · exact h
    · have hscope := (hagrees s hs).appScope.2.2 r hr
      exact h.bringUp_create hspent (fun request => hscope ▸ Recording.suits_requests) hup
  rcases serve_cases p t hestablish hreestablish with
    ⟨-, he⟩ | ⟨-, -, -, he⟩ | ⟨c, -, hcall, -, he⟩ <;> rw [he]
  · exact h
  · exact h.record _
  · exact h.tell p (EngineRequest.isNaming_of_call? hcall) _

theorem Scoped.setProfile (h : t.Scoped) (hspent : t.Spent) (v : Profile) :
    (t.setProfile v).1.Scoped := by
  unfold Tunnel.setProfile
  cases Recording.start v t.owningApp with
  | error e => exact h
  | ok initial => exact h.create hspent.numbered v.name rfl

theorem Scoped.raisePlaceholder (h : t.Scoped) (hspent : t.Spent) (hagrees : t.AgreesWith a)
    (p : Platform) : (t.raisePlaceholder p).1.Scoped := by
  rcases raisePlaceholder_cases p t with ⟨-, he⟩ | ⟨s, host, answer, hs, hup, hcases⟩
  · rw [he]
    exact h
  have hscope := (hagrees s hs).appScope.1
  have hhost := h.bringUp_create hspent
    (fun request => hscope ▸ Placeholder.suits_requests) hup
  rcases hcases with ⟨e, -, he⟩ | ⟨i, t₁, host', rfl, -, -⟩
  · rw [he]
    exact hhost
  · have hn := (hspent.bringUp_create p s.profile.name _ hup).1.numbered
    exact (hhost.commit hn hs _).of_keepsBuilders (keepsBuilders_raisePlaceholder hs hup)

theorem Scoped.perform (h : t.Scoped) (hspent : t.Spent) (hagrees : t.AgreesWith a)
    (p : Platform) (o : Operation) : (t.perform p o).1.Scoped := by
  cases o with
  | request r => exact h.serve hspent hagrees p r
  | setProfile v =>
    rw [fst_perform_setProfile]
    exact h.setProfile hspent v
  | raisePlaceholder =>
    rw [fst_perform_raisePlaceholder]
    exact h.raisePlaceholder hspent hagrees p
  | lowerPlaceholder => exact h.of_keepsBuilders (keepsBuilders_lowerPlaceholder t)

theorem Scoped.run (h : t.Scoped) (hspent : t.Spent) (hagrees : t.AgreesWith a)
    (steps : List (Platform × Operation)) : (t.run steps).Scoped := by
  induction steps generalizing t a with
  | nil => exact h
  | cons step rest ih =>
    obtain ⟨p, o⟩ := step
    exact ih (h.perform hspent hagrees p o) (hspent.perform p o).1 (hagrees.perform p o)

/-! ## Interfaces that come up -/

/-- When an interface `i` comes up, its builder has been told all of `requests`, and that stays so
whatever is done with other builders. -/
theorem came_up_of_bringUp {h₀ : Host} {requests : List Request} {scope : AppScope}
    {c : Capabilities} {i : Nat} (hn : h₀.Numbered)
    (hinterfaces : h₀.interfaces = t.host.interfaces) (hsuited : h₀.SuitedAt c scope j)
    (hsuits : ∀ request ∈ requests, request.call.Suits c scope)
    (hall : c.perAppScoping = true → scope.requests ⊆ requests)
    (hup : h₀.bringUp p j requests = (host, .ok i)) (hkeeps : host.KeepsRecords t'.host) :
    t'.host.providers[t.host.interfaces.length]? = some j ∧ t'.host.ScopedAt c scope j := by
  have hprovider := Host.getElem?_providers_bringUp hn.interfaces hup
  have hi : i = t.host.interfaces.length := hinterfaces ▸ Host.eq_length_of_bringUp hup
  have hrecord : t'.host.record j = host.record j :=
    hkeeps.record j (List.mem_of_getElem? hprovider)
  obtain ⟨more, hmore⟩ := hkeeps.providers
  have htold := hsuited.bringUp (p := p) hsuits
  rw [hup] at htold
  refine ⟨?_, htold.of_record hrecord, fun hc request hr => ?_⟩
  · rw [← hmore, ← hi, List.getElem?_append_left (List.getElem?_eq_some_iff.mp hprovider).1,
      hprovider]
  · rw [Host.submitted_congr hrecord]
    exact Host.submitted_of_bringUp hup (hall hc hr)

/-- The interface that has come up from `t` to `t'` has a builder that was scoped as the session's
profile says. -/
def NewScoped (t t' : Tunnel) : Prop :=
  ∃ s j, t.session = some s ∧ t'.host.providers[t.host.interfaces.length]? = some j ∧
    t'.host.ScopedAt t.capabilities (s.profile.appScope t.owningApp) j

theorem Scoped.newScoped_establish (h : t.Scoped) (hspent : t.Spent) (hagrees : t.AgreesWith a)
    (hnew : t.hasNew (t.establish p).1 = true) : t.NewScoped (t.establish p).1 := by
  rcases establish_cases p t with ⟨-, he⟩ | ⟨s, host, hs, ⟨e, hup, he⟩ | ⟨i, hup, he⟩⟩ <;>
    rw [he] at hnew ⊢
  · simp [hasNew] at hnew
  · rw [hasNew_of_bringUp_error hup rfl] at hnew
    cases hnew
  · obtain ⟨hn, hmade, -⟩ := hspent.bringUp hs hup
    obtain ⟨-, hkeeps⟩ := spent_commit (t := { t with host }) hn hmade hs s.recording
    have hscope := (hagrees s hs).appScope.2.1
    refine ⟨s, s.builder, hs, came_up_of_bringUp hspent.numbered rfl (h.session s hs)
      (fun request hr => hscope ▸ Recording.suits_requests hr) (fun hc request hr => ?_) hup hkeeps⟩
    exact Recording.mem_requests.mpr (.inr (.inr (.inl ⟨hc, hscope ▸ hr⟩)))

/-- An interface has come up that was asked of a builder of its own. -/
theorem Spent.newScoped_create (hspent : t.Spent) (hs : t.session = some s) {r : Recording}
    {first : List Request} {i : Nat} (hscope : r.appScope = s.profile.appScope t.owningApp)
    (hfirst : ∀ request ∈ first, request.call.Suits t.capabilities r.appScope)
    (hup : (t.host.create s.profile.name).1.bringUp p (t.host.create s.profile.name).2
      (first ++ r.requests t.capabilities) = (host, .ok i))
    (hkeeps : host.KeepsRecords t'.host) : t.NewScoped t' := by
  refine ⟨s, _, hs, came_up_of_bringUp (hspent.numbered.create s.profile.name) rfl
    (hspent.numbered.suitedAt_create s.profile.name _ _) (fun request hr => ?_)
    (fun hc request hr => ?_) hup hkeeps⟩ <;> rw [← hscope] at *
  · exact (List.mem_append.mp hr).elim (hfirst request) Recording.suits_requests
  · exact List.mem_append_right _ (Recording.mem_requests.mpr (.inr (.inr (.inl ⟨hc, hr⟩))))

theorem Spent.newScoped_reestablish (hspent : t.Spent) (hagrees : t.AgreesWith a)
    (hnew : t.hasNew (t.reestablish p).1 = true) : t.NewScoped (t.reestablish p).1 := by
  rcases reestablish_cases p t with ⟨e, he⟩ | ⟨s, r, host, e | i, hs, hr, hup, he⟩ <;>
    rw [he] at hnew ⊢
  · simp [hasNew] at hnew
  · rw [hasNew_of_bringUp_error hup rfl] at hnew
    cases hnew
  · obtain ⟨-, hkeeps⟩ := (hspent.bringUp_create p s.profile.name _ hup).1.of_keepsBuilders
      (.refl { t with host })
    have hfirst : ∀ request ∈ ([] : List Request),
        request.call.Suits t.capabilities r.appScope := by simp
    exact hspent.newScoped_create hs ((hagrees s hs).appScope.2.2 r hr) hfirst hup hkeeps

theorem Spent.newScoped_raisePlaceholder (hspent : t.Spent) (hagrees : t.AgreesWith a)
    (hnew : t.hasNew (t.raisePlaceholder p).1 = true) :
    t.NewScoped (t.raisePlaceholder p).1 := by
  rcases raisePlaceholder_cases p t with ⟨-, he⟩ |
    ⟨s, host, answer, hs, hup, ⟨e, rfl, he⟩ | ⟨i, t₁, host', rfl, -, -⟩⟩
  · rw [he] at hnew
    simp [hasNew] at hnew
  · rw [he, hasNew_of_bringUp_error hup rfl] at hnew
    cases hnew
  · obtain ⟨hraised, -⟩ := hspent.bringUp_create p s.profile.name _ hup
    obtain ⟨hcommit, hkeeps⟩ :=
      spent_commit hraised.numbered hraised.made hs (Placeholder.recording s.initial)
    obtain ⟨-, hkeeps'⟩ := hcommit.of_keepsBuilders (keepsBuilders_raisePlaceholder hs hup)
    have hscope : (Placeholder.recording s.initial).appScope = s.profile.appScope t.owningApp :=
      (hagrees s hs).appScope.1
    exact hspent.newScoped_create hs hscope (fun request hr => Placeholder.suits_first hr) hup
      (hkeeps.trans hkeeps')

/-- Each interface that comes up in `perform` has a builder that was scoped as the session's profile
says. -/
theorem Scoped.newScoped_perform (h : t.Scoped) (hspent : t.Spent) (hagrees : t.AgreesWith a)
    {o : Operation} (hnew : t.hasNew (t.perform p o).1 = true) :
    t.NewScoped (t.perform p o).1 := by
  have hnothing {t' : Tunnel} (hlength : t'.host.interfaces.length = t.host.interfaces.length)
      (hsome : t.hasNew t' = true) : t.NewScoped t' := by
    rw [hasNew_of_length_eq hlength] at hsome
    cases hsome
  cases o with
  | request r =>
    rw [Tunnel.perform] at hnew ⊢
    by_cases hestablish : r = .establish
    · rw [hestablish, Tunnel.serve, fst_came] at hnew ⊢
      exact h.newScoped_establish hspent hagrees hnew
    by_cases hreestablish : r = .reestablish
    · rw [hreestablish, Tunnel.serve, fst_came] at hnew ⊢
      exact hspent.newScoped_reestablish hagrees hnew
    rcases serve_cases p t hestablish hreestablish with
      ⟨-, he⟩ | ⟨-, -, -, he⟩ | ⟨c, -, -, -, he⟩ <;> rw [he] at hnew ⊢
    · exact hnothing rfl hnew
    · exact hnothing (length_record t _) hnew
    · exact hnothing (length_tell p t c _) hnew
  | setProfile v =>
    rw [fst_perform_setProfile] at hnew ⊢
    refine hnothing ?_ hnew
    unfold Tunnel.setProfile
    cases Recording.start v t.owningApp <;> rfl
  | raisePlaceholder =>
    rw [fst_perform_raisePlaceholder] at hnew ⊢
    exact hspent.newScoped_raisePlaceholder hagrees hnew
  | lowerPlaceholder => exact hnothing (length_lowerPlaceholder t) hnew

/-- Nothing in `later` happens at the builder of an interface that has come up. -/
theorem NewScoped.later (h : t.NewScoped t') (hspent : t'.Spent)
    (later : List (Platform × Operation)) : t.NewScoped (t'.run later) := by
  obtain ⟨s, j, hs, hprovider, hsuited, hsubmitted⟩ := h
  obtain ⟨-, hkeeps⟩ := hspent.run later
  have hrecord := hkeeps.record j (List.mem_of_getElem? hprovider)
  obtain ⟨more, hmore⟩ := hkeeps.providers
  refine ⟨s, j, hs, ?_, hsuited.of_record hrecord, fun hc request hr => ?_⟩
  · rw [← hmore, List.getElem?_append_left (List.getElem?_eq_some_iff.mp hprovider).1, hprovider]
  · exact (Host.submitted_congr hrecord).mpr (hsubmitted hc request hr)

/-! ## Every run -/

theorem capabilities_run (t : Tunnel) (steps : List (Platform × Operation)) :
    (t.run steps).capabilities = t.capabilities := by
  induction steps generalizing t with
  | nil => rfl
  | cons step rest ih => exact (ih _).trans (capabilities_perform step.1 t step.2).1

/-- In every run of `steps` no builder `b` is told of an app unless both `allowed` and `supported`
have `perAppScoping`, nor to let a family past the tunnel unless both have `familyBypass`. No
builder is told to take `owningApp` in, and none is told both to take an app in and to leave one
out. Where apps can be scoped, the builder of every interface that ever comes up was told, and is
told `later`, of the apps that the profile `v` set last selects and no others: to leave out
`owningApp` if `v` selects none, to leave out that and the selected ones if it excludes them, and to
take in the selected ones other than `owningApp` if it takes in only these. -/
theorem apps_scoped (allowed supported : Capabilities) (owningApp : String)
    (steps : List (Platform × Operation)) :
    let first := start allowed supported owningApp
    let t := first.run steps
    (∀ b app, t.host.Submitted b (.disallowApp app) ∨ t.host.Submitted b (.allowApp app) →
      allowed.perAppScoping = true ∧ supported.perAppScoping = true) ∧
    (∀ b f, t.host.Submitted b (.allowFamily f) →
      allowed.familyBypass = true ∧ supported.familyBypass = true) ∧
    (∀ b, ¬ t.host.Submitted b (.allowApp owningApp)) ∧
    (∀ b app app', t.host.Submitted b (.allowApp app) →
      ¬ t.host.Submitted b (.disallowApp app')) ∧
    ∀ p o later, t.hasNew (t.perform p o).1 = true →
      allowed.perAppScoping = true → supported.perAppScoping = true →
      let t' := (t.perform p o).1.run later
      ∃ v b, (first.account {} steps).profile = some v ∧
        t'.host.providers[t.host.interfaces.length]? = some b ∧
        (v.selectedAppsHandling = .disabled → ∀ app,
          (t'.host.Submitted b (.disallowApp app) ↔ app = owningApp) ∧
          ¬ t'.host.Submitted b (.allowApp app)) ∧
        (v.selectedAppsHandling = .exclude → ∀ app,
          (t'.host.Submitted b (.disallowApp app) ↔ app = owningApp ∨ app ∈ v.selectedApps) ∧
          ¬ t'.host.Submitted b (.allowApp app)) ∧
        (v.selectedAppsHandling = .only → ∀ app,
          (t'.host.Submitted b (.allowApp app) ↔ app ∈ v.selectedApps ∧ app ≠ owningApp) ∧
          ¬ t'.host.Submitted b (.disallowApp app)) := by
  intro first t
  have hspent : t.Spent := ((spent_start allowed supported owningApp).run steps).1
  have hnone : first.AgreesWith {} := .of_none rfl
  have hagrees : t.AgreesWith (first.account {} steps) := hnone.run steps
  have hscoped : t.Scoped :=
    (scoped_start allowed supported owningApp).run (spent_start ..) hnone steps
  have howner : t.owningApp = owningApp := owningApp_run first steps
  have hcapabilities : t.capabilities = allowed.intersect supported := capabilities_run first steps
  -- What a builder was told suits one profile. That settles all parts but the last.
  have hsuits (b : Nat) : ∃ v : Profile, ∀ call, t.host.Submitted b call →
      call.Suits (allowed.intersect supported) (v.appScope owningApp) := by
    obtain ⟨v, hv⟩ := hscoped.builders b
    rw [hcapabilities, howner] at hv
    exact ⟨v, hv⟩
  refine ⟨fun b app hcall => ?_, fun b f hcall => ?_, fun b hcall => ?_,
    fun b app app' hcall hcall' => ?_, fun p o later hnew ha hp => ?_⟩
  · obtain ⟨v, hv⟩ := hsuits b
    exact Bool.and_eq_true_iff.mp (hcall.elim (fun h => (hv _ h).1) fun h => (hv _ h).1)
  · obtain ⟨v, hv⟩ := hsuits b
    exact Bool.and_eq_true_iff.mp (hv _ hcall)
  · obtain ⟨v, hv⟩ := hsuits b
    exact v.takeIn_owningApp_notMem owningApp (hv _ hcall).2
  · obtain ⟨v, hv⟩ := hsuits b
    exact AppScope.leaveOut_notMem_of_takeIn (hv _ hcall).2 (hv _ hcall').2
  · obtain ⟨s, b, hs, hprovider, hscope⟩ :=
      (hscoped.newScoped_perform hspent hagrees hnew).later (hspent.perform p o).1 later
    rw [hcapabilities, howner] at hscope
    have hboth : (allowed.intersect supported).perAppScoping = true :=
      Bool.and_eq_true_iff.mpr ⟨ha, hp⟩
    refine ⟨s.profile, b, (hagrees s hs).profile, hprovider, fun h app => ?_, fun h app => ?_,
      fun h app => ?_⟩
    all_goals
      obtain ⟨hleft, htaken⟩ := hscope.submitted_iff hboth app
      obtain ⟨hdisabled, hexclude, honly⟩ := s.profile.mem_requests_appScope owningApp app
      rw [hleft, htaken]
    · exact hdisabled h
    · exact hexclude h
    · exact honly h

/-- A profile that takes in only two apps, of which one is the owning app. -/
def onlyTwo : Profile where
  selectedAppsHandling := .only
  selectedApps := .ofList ["browser", "owner"]

/-- An interface for `onlyTwo` is declined. -/
def declinedForTwo : List (Platform × Operation) :=
  [(.agreeing, .setProfile onlyTwo), (declining, .request .establish)]

/-- After `declinedForTwo` the next attempt is made on the same builder, which is told of the other
app alone. -/
theorem apps_scoped_declined :
    let t := (start {} {} "owner").run declinedForTwo
    let t' := (t.perform .agreeing (.request .establish)).1
    t.hasNew t' = true ∧ ∃ b, t'.host.providers[0]? = some b ∧
      (∀ app, t'.host.Submitted b (.allowApp app) ↔ app = "browser") ∧
      ∀ app, ¬ t'.host.Submitted b (.disallowApp app) := by
  intro t t'
  have hnew : t.hasNew t' = true := by decide +kernel
  have hlength : ((start {} {} "owner").run declinedForTwo).host.interfaces.length = 0 := by
    decide +kernel
  have hprofile : ∀ v ∈ ((start {} {} "owner").account {} declinedForTwo).profile,
      v.selectedAppsHandling = .only ∧ v.selectedApps.toList = ["browser", "owner"] := by
    decide +kernel
  obtain ⟨-, -, -, -, hinterfaces⟩ := apps_scoped {} {} "owner" declinedForTwo
  obtain ⟨v, b, hv, hprovider, -, -, honly⟩ :=
    hinterfaces .agreeing (.request .establish) [] hnew rfl rfl
  obtain ⟨honlyThese, happs⟩ := hprofile v hv
  rw [hlength] at hprovider
  refine ⟨hnew, b, hprovider, fun app => ?_, fun app => (honly honlyThese app).2⟩
  refine (honly honlyThese app).1.trans ?_
  rw [SortedSet.mem_iff, happs]
  simp only [List.mem_cons, List.not_mem_nil, or_false]
  constructor
  · rintro ⟨rfl | rfl, hne⟩
    · rfl
    · exact absurd rfl hne
  · rintro rfl
    exact ⟨.inl rfl, by decide⟩

end Tunnel

end SplitTunnel
