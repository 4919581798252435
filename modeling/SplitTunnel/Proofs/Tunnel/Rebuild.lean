import SplitTunnel.Proofs.Platform.Records
import SplitTunnel.Proofs.Tunnel.Draft
import SplitTunnel.Proofs.Tunnel.Life

/-!
# The last interface once more (`SPEC_FULL.md` §4.3, `establish_no_dns`)

A tunnel remembers what the last interface for its profile was made of, whatever is recorded or
tried afterwards, and brings it up again on a new builder.

* `Exchange`, `Tunnel.lastPass`: the calls that the last interface was made of, and their answers,
  by what has happened on the platform.
* `Platform.AnswersAlike`, `Host.bringUp_of_answersAlike`: calls that are answered as they were
  before lead to where they led before.
* `Tunnel.Remembers`: the tunnel remembers the recording that was put in these calls.
  `Tunnel.Remembers.perform` is that every operation keeps this, and `Tunnel.Remembers.run` that
  every run does.
* `Tunnel.Repeats`, `Tunnel.Remembers.repeats`: the same calls on a new builder.
* `Tunnel.reestablish_repeats`: what comes of bringing the last interface up again, in every run.
-/

namespace SplitTunnel

/-! ## Calls and their answers -/

/-- A `call` on a builder, and why the builder refused it, if it did. -/
structure Exchange where
  call : Call
  answer : Option Rejection
deriving DecidableEq, Repr

/-- The call applies what has been recorded. The others say how names are looked up and whether
reads wait. -/
def Call.isApplied : Call → Bool
  | addDnsServer _ | addSearchDomain _ | setBlocking _ => false
  | _ => true

/-- The call that was made to apply what had been recorded. -/
def Event.applied? : Event → Option Exchange
  | .called _ c answer => if c.isApplied then some ⟨c, answer⟩ else none
  | _ => none

/-- What the host notes of `x` at `builder`. -/
def Exchange.event (builder : Nat) (x : Exchange) : Event := .called builder x.call x.answer

/-- `p` answers the calls of `pass` on `builder` as they were answered before, each after the ones
before it. -/
def Platform.AnswersAlike (p : Platform) (builder : Nat) (events : List Event)
    (pass : List Exchange) : Prop :=
  ∀ before x after, pass = before ++ x :: after →
    p.answerTo (events ++ before.map (Exchange.event builder)) builder x.call = x.answer

namespace Put

/-- The call in which the request of `x` was put, and its answer. -/
def exchange (x : Put) : Exchange := ⟨x.request.call, x.refusal⟩

theorem map_event_exchange (j : Nat) (puts : List Put) :
    (puts.map exchange).map (Exchange.event j) = puts.map (event j) := List.map_map

variable {p : Platform} {j : Nat} {events : List Event} {puts : List Put}

theorem answeredBy_of_answersAlike (h : p.AnswersAlike j events (puts.map exchange)) :
    AnsweredBy p j events puts := by
  induction puts generalizing events with
  | nil => trivial
  | cons x rest ih =>
    refine ⟨?_, ih fun before y after he => ?_⟩
    · have hfirst := h [] x.exchange (rest.map exchange) rfl
      rw [List.map_nil, List.append_nil] at hfirst
      exact hfirst.symm
    · have hlater := h (x.exchange :: before) y after (congrArg (x.exchange :: ·) he)
      rwa [List.map_cons, List.append_cons] at hlater

/-- Requests that are all part of applying a recording are noted as such. -/
theorem filterMap_applied? (h : ∀ x ∈ puts, x.request.call.isApplied = true) :
    (puts.map (event j)).filterMap Event.applied? = puts.map exchange := by
  induction puts with
  | nil => rfl
  | cons x rest ih =>
    obtain ⟨hx, hrest⟩ := List.forall_mem_cons.mp h
    have hnoted : (x.event j).applied? = some x.exchange := if_pos hx
    rw [List.map_cons, List.filterMap_cons, hnoted, ih hrest, List.map_cons]

theorem filterMap_applied?_eq_nil (h : ∀ x ∈ puts, x.request.call.isApplied = false) :
    (puts.map (event j)).filterMap Event.applied? = [] := by
  rw [List.filterMap_eq_nil_iff]
  intro e he
  obtain ⟨x, hx, rfl⟩ := List.mem_map.mp he
  exact if_neg (by simp [h x hx])

end Put

theorem Recording.isApplied_requests {r : Recording} {c : Capabilities} {request : Request}
    (h : request ∈ r.requests c) : request.call.isApplied = true := by
  rcases mem_requests.mp h with ⟨a, -, rfl⟩ | ⟨f, hfamily⟩ | ⟨-, happ⟩ | rfl
  · rfl
  · rcases mem_familyRequests.mp hfamily with ⟨b, -, rfl⟩ | ⟨rfl, -, -⟩ <;> rfl
  · rcases AppScope.mem_requests.mp happ with ⟨_, -, app, -, rfl⟩ | ⟨_, -, app, -, rfl⟩ <;> rfl
  · rfl

namespace Host

variable {p : Platform} {h h' h₁ : Host} {j : Nat} {pass : List Put}

/-- Requests of `pass` that get answers with which they pass are put one by one, and all is well. -/
theorem submitAll_of_answeredBy (hanswered : Put.AnsweredBy p j h.events pass)
    (hpass : ∀ x ∈ pass, x.Passes) :
    ∃ h', h.submitAll p j (pass.map Put.request) = (h', .ok ()) ∧
      Told j h h' (pass.map (Put.event j)) := by
  induction pass generalizing h with
  | nil => exact ⟨h, rfl, .of_builders (List.append_nil _).symm rfl rfl⟩
  | cons x rest ih =>
    obtain ⟨hx, hrest⟩ := List.forall_mem_cons.mp hpass
    obtain ⟨hanswer, hafter⟩ := hanswered
    have htold := told_submit p h j x.request.call
    have hsnd := snd_submit p h j x.request.call
    rw [← hanswer] at hsnd
    rcases he : h.submit p j x.request.call with ⟨h₁, answer⟩
    rw [he] at htold hsnd
    obtain rfl : answer = x.refusal := hsnd
    have hafter : Put.AnsweredBy p j h₁.events rest := by
      rw [htold.events]
      exact hafter
    obtain ⟨h', hsubmit, htold'⟩ := ih hafter hrest
    refine ⟨h', ?_, htold.trans htold'⟩
    rw [List.map_cons, submitAll, he]
    cases hr : x.refusal with
    | none => exact hsubmit
    | some cause => simpa [hx cause hr] using hsubmit

/-- Calls that are answered as they were when all went well are all made again. Then it is the turn
of `p`. -/
theorem bringUp_of_answersAlike (hpass : ∀ x ∈ pass, x.Passes)
    (halike : p.AnswersAlike j h.events (pass.map Put.exchange)) :
    let asked := h.events ++ (pass.map Put.exchange).map (Exchange.event j)
    (h.bringUp p j (pass.map Put.request)).1.events =
        asked ++ [.established j (p.establish asked j)] ∧
      ((h.bringUp p j (pass.map Put.request)).2.isOk = true ↔ p.establish asked j = .up) := by
  intro asked
  obtain ⟨h₁, hsubmit, htold⟩ :=
    submitAll_of_answeredBy (Put.answeredBy_of_answersAlike halike) hpass
  have hasked : asked = h₁.events := by
    rw [htold.events]
    exact congrArg (h.events ++ ·) (Put.map_event_exchange j pass)
  rw [bringUp, hsubmit, hasked]
  refine ⟨(told_establish p h₁ j).events, ?_⟩
  dsimp only
  unfold establish
  cases p.establish h₁.events j <;> simp [Except.isOk, Except.toBool]

/-- Whatever the answers are now, the calls of `pass` are made in the same order and from the first
one on. -/
theorem bringUp_prefix (p : Platform) (h : Host) (j : Nat) (pass : List Put) :
    ∃ (puts : List Exchange) (asked : List Event),
      (h.bringUp p j (pass.map Put.request)).1.events =
        h.events ++ puts.map (Exchange.event j) ++ asked ∧
      puts.map Exchange.call <+: (pass.map Put.exchange).map Exchange.call ∧
      asked.length ≤ 1 ∧ ∀ e ∈ asked, ∃ outcome, e = .established j outcome := by
  have hcalls (puts : List Put) :
      (puts.map Put.exchange).map Exchange.call = (puts.map Put.request).map Request.call := by
    rw [List.map_map, List.map_map]
    rfl
  obtain ⟨puts, -, ⟨e, -, hends, htold⟩ | ⟨outcome, -, hall, -, htold, -⟩⟩ :=
    bringUp_puts p h j (pass.map Put.request)
  · refine ⟨puts.map Put.exchange, [], ?_, ?_, by simp, nofun⟩
    · rw [htold.events, Put.map_event_exchange, List.append_nil]
    · rw [hcalls, hcalls]
      exact hends.request_prefix.map _
  · refine ⟨puts.map Put.exchange, [.established j outcome], ?_, ?_, by simp, ?_⟩
    · rw [htold.events, Put.map_event_exchange, List.append_assoc]
    · have hsame : (puts.map Put.exchange).map Exchange.call =
          (pass.map Put.exchange).map Exchange.call := by rw [hcalls, hcalls, hall]
      exact hsame ▸ List.prefix_rfl
    · simp

/-- From `h` to `h'` builders were made, and readers were started and stopped. No builder was told
anything. -/
def Silent (h h' : Host) : Prop :=
  ∃ more, h'.events = h.events ++ more ∧ more.filterMap Event.applied? = []

theorem Silent.refl (h : Host) : h.Silent h := ⟨[], (List.append_nil _).symm, rfl⟩

theorem Silent.trans (ha : h.Silent h₁) (hb : h₁.Silent h') : h.Silent h' := by
  obtain ⟨more, hevents, hmore⟩ := ha
  obtain ⟨more', hevents', hmore'⟩ := hb
  exact ⟨more ++ more', by rw [hevents', hevents, List.append_assoc],
    by rw [List.filterMap_append, hmore, hmore', List.append_nil]⟩

theorem silent_create (h : Host) (session : String) : h.Silent (h.create session).1 :=
  ⟨_, rfl, rfl⟩

theorem silent_close (h : Host) (i : Nat) : h.Silent (h.close i) := by
  unfold close
  split
  · exact ⟨_, rfl, rfl⟩
  · exact .refl h

theorem silent_drainFrom (p : Platform) (h : Host) (i mtu : Nat) :
    h.Silent (h.drainFrom p i mtu).1 := by
  unfold drainFrom
  split <;> exact ⟨_, rfl, rfl⟩

end Host

/-! ## What a tunnel remembers -/

/-- The calls of the last interface for the profile after an operation, by its `Outcome` and the
`news` from the platform. One that is brought up again does not count. -/
def notePass (last : Option (List Exchange)) (cameUp : Bool) (news : List Event) :
    Operation → Outcome → Option (List Exchange)
  | .setProfile _, .done => none
  | .request .reestablish, _ => last
  | _, _ => if cameUp then some (news.filterMap Event.applied?) else last

theorem notePass_request {r : EngineRequest} (hr : r ≠ .reestablish)
    (last : Option (List Exchange)) (cameUp : Bool) (news : List Event) (outcome : Outcome) :
    notePass last cameUp news (.request r) outcome =
      if cameUp then some (news.filterMap Event.applied?) else last := by
  cases r <;> first | rfl | exact absurd rfl hr

/-- The calls are the ones in which all requests of the recording were put, and they passed. -/
inductive Rebuilds (c : Capabilities) : Option Recording → Option (List Exchange) → Prop
  | nothing : Rebuilds c none none
  | again {r : Recording} {puts : List Put} (hall : puts.map Put.request = r.requests c)
    (hpass : ∀ x ∈ puts, x.Passes) : Rebuilds c (some r) (some (puts.map Put.exchange))

theorem Rebuilds.eq_none_iff {c : Capabilities} {r : Option Recording}
    {last : Option (List Exchange)} (h : Rebuilds c r last) : last = none ↔ r = none := by
  cases h <;> simp

/-- All calls `x` of `pass` apply what was recorded. -/
theorem Rebuilds.isApplied {c : Capabilities} {r : Option Recording} {pass : List Exchange}
    (h : Rebuilds c r (some pass)) {x : Call} (hx : x ∈ pass.map Exchange.call) :
    x.isApplied = true := by
  cases h with
  | @again r puts hall hpass =>
    rw [List.map_map] at hx
    obtain ⟨put, hput, rfl⟩ := List.mem_map.mp hx
    exact Recording.isApplied_requests (hall ▸ List.mem_map_of_mem hput)

namespace Tunnel

variable {p : Platform} {t t' : Tunnel} {s : Session} {last : Option (List Exchange)}

/-- The calls of the last interface for the profile after operations on `t`, as `run` does them. -/
def lastPass (t : Tunnel) (last : Option (List Exchange)) :
    List (Platform × Operation) → Option (List Exchange)
  | [] => last
  | (p, o) :: rest =>
    let (t', outcome) := t.perform p o
    t'.lastPass (notePass last (t.hasNew t') (t.news t') o outcome) rest

/-- The tunnel `t` remembers what the calls `last` applied. -/
def Remembers (t : Tunnel) (last : Option (List Exchange)) : Prop :=
  Rebuilds t.capabilities t.established? last

/-- From `t` to `t'` nothing has come up, and the recording that would be brought up again is the
same. -/
structure Recalls (t t' : Tunnel) : Prop where
  capabilities : t'.capabilities = t.capabilities
  established : t'.established? = t.established?
  interfaces : t'.host.interfaces.length = t.host.interfaces.length

theorem Recalls.refl (t : Tunnel) : t.Recalls t := ⟨rfl, rfl, rfl⟩

theorem Recalls.remembers (h : t.Recalls t') (hlast : t.Remembers last) : t'.Remembers last := by
  rw [Remembers, h.capabilities, h.established]
  exact hlast

theorem recalls_record (t : Tunnel) (f : Recording → Recording) :
    t.Recalls (t.record f).1 := by
  refine ⟨(spares_record t f).profile.capabilities, ?_, length_record t f⟩
  rcases record_cases t f with ⟨-, he⟩ | ⟨s, hs, he⟩ <;> rw [he]
  simp [established?, hs]

theorem recalls_tell (p : Platform) (t : Tunnel) (c : Call) (f : Recording → Recording) :
    t.Recalls (t.tell p c f).1 := by
  refine ⟨(spares_tell p t c f).profile.capabilities, ?_, length_tell p t c f⟩
  rcases tell_cases p t c f with ⟨-, he⟩ | ⟨s, host, hs, -, ⟨cause, -, -, he⟩ | ⟨-, -, he⟩⟩ <;>
    rw [he]
  · rfl
  · simp [established?, hs]

theorem recalls_lowerPlaceholder (t : Tunnel) : t.Recalls t.lowerPlaceholder := by
  refine ⟨(sameProfile_lowerPlaceholder t).capabilities, ?_, length_lowerPlaceholder t⟩
  unfold lowerPlaceholder
  split <;> rfl

/-- An interface that did not come up leaves the memory as it is. -/
theorem recalls_of_bringUp_error {h₀ host : Host} {j : Nat} {requests : List Request}
    {e : EstablishError} (hinterfaces : h₀.interfaces = t.host.interfaces)
    (hup : h₀.bringUp p j requests = (host, .error e)) : t.Recalls { t with host } := by
  have hlength := Host.length_bringUp p h₀ j requests
  rw [hup, hinterfaces] at hlength
  exact ⟨rfl, rfl, hlength⟩

theorem silent_lowerPlaceholder (t : Tunnel) : t.host.Silent t.lowerPlaceholder.host := by
  unfold lowerPlaceholder
  split
  · exact .refl _
  · exact Host.silent_close _ _

theorem silent_commit (hs : t.session = some s) (established : Recording) :
    t.host.Silent (t.commit established).host := by
  rw [commit_eq hs]
  exact (Host.silent_create _ _).trans (silent_lowerPlaceholder _)

theorem established?_commit (hs : t.session = some s) (established : Recording) :
    (t.commit established).established? = some established := by
  rw [commit_eq hs, (recalls_lowerPlaceholder _).established]
  rfl

/-- An interface has come up, for which the requests `first` were put and then all that `r` asks
for; and `r` is the recording that would be brought up again. -/
theorem remembers_of_bringUp {h₀ host : Host} {j i : Nat} {r : Recording} {first : List Request}
    (hfirst : ∀ request ∈ first, request.call.isApplied = false) (hbefore : t.host.Silent h₀)
    (hup : h₀.bringUp p j (first ++ r.requests t.capabilities) = (host, .ok i))
    (hafter : host.Silent t'.host) (hcapabilities : t'.capabilities = t.capabilities)
    (hr : t'.established? = some r) :
    t'.Remembers (some ((t.news t').filterMap Event.applied?)) := by
  obtain ⟨puts, -, hcases⟩ := Host.bringUp_puts p h₀ j (first ++ r.requests t.capabilities)
  rw [hup] at hcases
  rcases hcases with ⟨e, he, -, -⟩ | ⟨outcome, -, hall, hpass, htold, -⟩
  · cases he
  obtain ⟨puts₁, puts₂, rfl, hall₁, hall₂⟩ := List.map_eq_append_iff.mp hall
  obtain ⟨before, hbefore, hquiet⟩ := hbefore
  obtain ⟨after, hafter, hquiet'⟩ := hafter
  have hnews : t.news t' = before ++ (((puts₁ ++ puts₂).map (Put.event j) ++
      [.established j outcome]) ++ after) := by
    rw [news, hafter, htold.events, hbefore, List.append_assoc, List.append_assoc, List.drop_left]
  have hprefix : ∀ x ∈ puts₁, x.request.call.isApplied = false := fun x hx =>
    hfirst _ (hall₁ ▸ List.mem_map_of_mem hx)
  have happlied : ∀ x ∈ puts₂, x.request.call.isApplied = true := fun x hx =>
    Recording.isApplied_requests (hall₂ ▸ List.mem_map_of_mem hx)
  have hnoted : (t.news t').filterMap Event.applied? = puts₂.map Put.exchange := by
    rw [hnews, List.map_append]
    simp only [List.filterMap_append, hquiet, hquiet', Put.filterMap_applied?_eq_nil hprefix,
      Put.filterMap_applied? happlied]
    simp [Event.applied?]
  rw [Remembers, hr, hnoted, hcapabilities]
  exact .again hall₂ fun x hx => hpass x (List.mem_append_right _ hx)

/-! ### One operation -/

/-- An operation `o` that brings nothing up and does not forget leaves the memory as it is. -/
theorem Recalls.notePass (h : t.Recalls t') (hlast : t.Remembers last) {o : Operation}
    {outcome : Outcome} (hkept : notePass last false (t.news t') o outcome = last) :
    t'.Remembers (notePass last (t.hasNew t') (t.news t') o outcome) := by
  rw [hasNew_of_length_eq h.interfaces, hkept]
  exact h.remembers hlast

theorem Remembers.establish (h : t.Remembers last) (p : Platform) :
    (t.serve p .establish).1.Remembers (notePass last (t.hasNew (t.serve p .establish).1)
      (t.news (t.serve p .establish).1) (.request .establish) (t.serve p .establish).2) := by
  rcases establish_cases p t with ⟨-, he⟩ | ⟨s, host, hs, ⟨e, hup, he⟩ | ⟨i, hup, he⟩⟩ <;>
    rw [Tunnel.serve, he] <;> dsimp only [came]
  · exact (Recalls.refl t).notePass h rfl
  · exact (recalls_of_bringUp_error rfl hup).notePass h rfl
  · rw [notePass_request (by simp), hasNew_of_lt (lt_length_of_bringUp hup rfl _), if_pos rfl]
    have hsession : ({ t with host } : Tunnel).session = some s := hs
    have hfirst : ∀ request ∈ ([] : List Request), request.call.isApplied = false := by simp
    exact remembers_of_bringUp hfirst (.refl _) hup (silent_commit hsession _)
      (sameProfile_commit _ _).capabilities (established?_commit hsession _)

theorem Remembers.serve (h : t.Remembers last) (p : Platform) (r : EngineRequest) :
    (t.serve p r).1.Remembers (notePass last (t.hasNew (t.serve p r).1)
      (t.news (t.serve p r).1) (.request r) (t.serve p r).2) := by
  by_cases hestablish : r = .establish
  · subst hestablish
    exact h.establish p
  by_cases hreestablish : r = .reestablish
  · subst hreestablish
    -- whatever comes of it, neither the session nor the note of the last calls changes
    rw [Tunnel.serve, fst_came]
    rcases reestablish_cases p t with ⟨e, he⟩ | ⟨s, r, host, answer, hs, hr, hup, he⟩ <;>
      rw [he] <;> exact h
  rcases serve_cases p t hestablish hreestablish with ⟨-, he⟩ | ⟨-, -, -, he⟩ | ⟨c, -, -, -, he⟩ <;>
    rw [he] <;> dsimp only [recorded]
  · exact (Recalls.refl t).notePass h (notePass_request hreestablish ..)
  · exact (recalls_record t r.note).notePass h (notePass_request hreestablish ..)
  · exact (recalls_tell p t c r.note).notePass h (notePass_request hreestablish ..)

theorem Remembers.raisePlaceholder (h : t.Remembers last) (p : Platform) (outcome : Outcome) :
    (t.raisePlaceholder p).1.Remembers (notePass last (t.hasNew (t.raisePlaceholder p).1)
      (t.news (t.raisePlaceholder p).1) .raisePlaceholder outcome) := by
  rcases raisePlaceholder_cases p t with ⟨-, he⟩ | ⟨s, host, answer, hs, hup, hcases⟩
  · rw [he]
    exact (Recalls.refl t).notePass h rfl
  rcases hcases with ⟨e, rfl, he⟩ | ⟨i, t₁, host', rfl, hcommit, hdrained⟩
  · have hsame : (t.host.create s.profile.name).1.interfaces = t.host.interfaces := rfl
    have hrecalls : t.Recalls { t with host } := recalls_of_bringUp_error hsame hup
    rw [he]
    exact hrecalls.notePass h rfl
  have hfirst : ∀ request ∈ Placeholder.dnsServers.map Request.dnsServer ++ [.blocking],
      request.call.isApplied = false := by decide
  have hsilent : host.Silent t₁.host := hcommit ▸ silent_commit (t := { t with host }) hs _
  have hcapabilities : t₁.capabilities = t.capabilities :=
    hcommit ▸ (sameProfile_commit { t with host } _).capabilities
  have hr : t₁.established? = some (Placeholder.recording s.initial) :=
    hcommit ▸ established?_commit (t := { t with host }) hs _
  have hquiet := Host.silent_drainFrom p t₁.host i (Placeholder.recording s.initial).mtu.toNat
  -- the interface has come up, whether or not it can be read
  rcases hdrained with ⟨hdrain, he⟩ | ⟨hdrain, he⟩
  all_goals
    rw [hdrain] at hquiet
    rw [he, hasNew_of_lt (lt_length_of_commit hup hcommit hdrain)]
    exact remembers_of_bringUp hfirst (Host.silent_create _ _) hup (hsilent.trans hquiet)
      hcapabilities hr

theorem established?_setProfile {v : Profile} {initial : Recording}
    (hstart : Recording.start v t.owningApp = .ok initial) :
    (t.setProfile v).1.established? = none := by
  rw [setProfile, hstart]
  rfl

/-- `perform` and what came of it lead from one memory to the next. -/
theorem Remembers.perform (h : t.Remembers last) (p : Platform) (o : Operation) :
    (t.perform p o).1.Remembers (notePass last (t.hasNew (t.perform p o).1)
      (t.news (t.perform p o).1) o (t.perform p o).2) := by
  cases o with
  | request r => exact h.serve p r
  | setProfile v =>
    cases hstart : Recording.start v t.owningApp with
    | ok initial =>
      obtain ⟨-, -, hok⟩ := setProfile_of_ok hstart
      have hforgot := established?_setProfile hstart
      rcases he : t.setProfile v with ⟨t', e | _⟩
      · rw [he] at hok
        cases hok
      · simp only [Tunnel.perform, he]
        rw [he] at hforgot
        rw [Remembers, hforgot]
        exact .nothing
    | error e =>
      simp only [Tunnel.perform, setProfile_of_error hstart]
      exact (Recalls.refl t).notePass h rfl
  | raisePlaceholder =>
    rw [fst_perform_raisePlaceholder]
    exact h.raisePlaceholder p _
  | lowerPlaceholder => exact (recalls_lowerPlaceholder t).notePass h rfl

/-- `run` leads from one memory to another. -/
theorem Remembers.run (h : t.Remembers last) (steps : List (Platform × Operation)) :
    (t.run steps).Remembers (t.lastPass last steps) := by
  induction steps generalizing t last with
  | nil => exact h
  | cons step rest ih =>
    obtain ⟨p, o⟩ := step
    exact ih (h.perform p o)

/-! ## The interface once more -/

theorem established?_eq_none_iff : t.established? = none ↔
    t.session = none ∨ ∃ s, t.session = some s ∧ s.established = none := by
  unfold established?
  cases t.session <;> simp

/-- `reestablish` leaves all else alone: the session and the placeholder, and the builders and
interfaces that were there. -/
theorem reestablish_leaves (p : Platform) (t : Tunnel) :
    (t.reestablish p).1 = { t with host := (t.reestablish p).1.host } ∧
      (∀ i < t.host.builders.length,
        (t.reestablish p).1.host.builders[i]? = t.host.builders[i]?) ∧
      t.host.interfaces <+: (t.reestablish p).1.host.interfaces := by
  rcases reestablish_eq p t with ⟨-, he⟩ | ⟨s, r, host, answer, -, -, hup, he⟩ <;> rw [he]
  · exact ⟨rfl, fun i hi => rfl, List.prefix_rfl⟩
  · have hkeeps := Host.keeps_bringUp p (t.host.create s.profile.name).1
      (t.host.create s.profile.name).2 (r.requests t.capabilities)
    rw [hup] at hkeeps
    refine ⟨rfl, fun i hi => ?_, hkeeps⟩
    have hsame := Host.getElem?_bringUp_create (List.getElem?_eq_getElem hi) p s.profile.name
      (r.requests t.capabilities)
    rw [hup] at hsame
    rw [hsame, List.getElem?_eq_getElem hi]

/-- `reestablish` brings an interface up again on one new builder, by the calls of `pass` in their
order and from the first one on, and by none about how names are looked up or whether reads wait. If
they are answered alike, all of them are made, and then the platform decides. -/
structure Repeats (t : Tunnel) (p : Platform) (session : String) (pass : List Exchange) :
    Prop where
  created : (t.reestablish p).1.host.builders.length = t.host.builders.length + 1
  calls : ∃ (puts : List Exchange) (asked : List Event),
    (t.reestablish p).1.host.events = (t.host.create session).1.events ++
      puts.map (Exchange.event t.host.builders.length) ++ asked ∧
    puts.map Exchange.call <+: pass.map Exchange.call ∧
    (∀ x ∈ puts, x.call.isApplied = true) ∧
    asked.length ≤ 1 ∧ ∀ e ∈ asked, ∃ outcome, e = .established t.host.builders.length outcome
  alike : p.AnswersAlike t.host.builders.length (t.host.create session).1.events pass →
    let asked := (t.host.create session).1.events ++
      pass.map (Exchange.event t.host.builders.length)
    let outcome := p.establish asked t.host.builders.length
    (t.reestablish p).1.host.events = asked ++ [.established t.host.builders.length outcome] ∧
      ((t.reestablish p).2.isOk = true ↔ outcome = .up)

theorem Remembers.repeats {pass : List Exchange} (h : t.Remembers (some pass)) (p : Platform) :
    ∃ s, t.session = some s ∧ t.Repeats p s.profile.name pass := by
  rcases reestablish_eq p t with ⟨hforgot, -⟩ | ⟨s, r, host, answer, hs, hr, hup, he⟩
  · cases h.eq_none_iff.mpr hforgot
  have happlied {x : Call} := h.isApplied (x := x)
  rw [Remembers, established?, hs, Option.bind_some, hr] at h
  cases h with
  | @again _ puts hall hpass =>
    rw [← hall] at hup
    refine ⟨s, hs, ?_, ?_, fun halike => ?_⟩ <;> rw [he]
    · have hlength := (Host.onlyAt_bringUp p (t.host.create s.profile.name).1
        (t.host.create s.profile.name).2 (puts.map Put.request)).builders
      rw [hup] at hlength
      exact hlength.trans (Host.length_create ..)
    · obtain ⟨told, asked, hevents, hcalls, hasked⟩ := Host.bringUp_prefix p
        (t.host.create s.profile.name).1 (t.host.create s.profile.name).2 puts
      rw [hup] at hevents
      exact ⟨told, asked, hevents, hcalls,
        fun x hx => happlied (hcalls.subset (List.mem_map_of_mem hx)), hasked⟩
    · have hagain := Host.bringUp_of_answersAlike (h := (t.host.create s.profile.name).1)
        (j := (t.host.create s.profile.name).2) hpass halike
      rw [hup] at hagain
      exact hagain

/-- In every run, `reestablish` changes nothing but what the platform has seen, and there neither a
builder nor an interface that was there. It fails without making a builder exactly if no profile is
set or no interface has come up for it. Otherwise it repeats, on a builder of the profile's session
name, the calls that were made for the last interface that came up otherwise. -/
theorem reestablish_repeats (allowed supported : Capabilities) (owningApp : String)
    (steps : List (Platform × Operation)) (p : Platform) :
    let first := start allowed supported owningApp
    let t := first.run steps
    let t' := (t.reestablish p).1
    t' = { t with host := t'.host } ∧
    (∀ i < t.host.builders.length, t'.host.builders[i]? = t.host.builders[i]?) ∧
    t.host.interfaces <+: t'.host.interfaces ∧
    (first.lastPass none steps = none ↔ t.session = none ∨
      ∃ s, t.session = some s ∧ s.established = none) ∧
    (first.lastPass none steps = none → t.reestablish p =
      (t, .error (if t.session.isSome then .nothingEstablished else .noProfile))) ∧
    ∀ pass, first.lastPass none steps = some pass →
      ∃ s, t.session = some s ∧ t.Repeats p s.profile.name pass := by
  intro first t t'
  have hremembers : t.Remembers (first.lastPass none steps) :=
    Remembers.run (t := first) .nothing steps
  have hnone := hremembers.eq_none_iff
  obtain ⟨hsession, hbuilders, hinterfaces⟩ := reestablish_leaves p t
  refine ⟨hsession, hbuilders, hinterfaces, hnone.trans established?_eq_none_iff,
    fun hlast => ?_, fun pass hlast => (hlast ▸ hremembers).repeats p⟩
  rcases reestablish_eq p t with ⟨-, he⟩ | ⟨s, r, host, answer, hs, hr, -, -⟩
  · exact he
  · have hforgot := hnone.mp hlast
    rw [established?, hs, Option.bind_some, hr] at hforgot
    cases hforgot

/-- An interface comes up. Then a route becomes known, and two attempts to bring up what would
replace the interface fail. -/
def attemptedAgain : List (Platform × Operation) :=
  [(.agreeing, .setProfile {}), (.agreeing, .request (.addAddress "10.10.0.2" 32)),
    (.agreeing, .request .establish), (.agreeing, .request (.addRoute "10.0.0.0" 8)),
    (declining, .request .establish), (declining, .raisePlaceholder)]

/-- After `attemptedAgain` the interface comes up again without the route. -/
theorem reestablish_repeats_attempted :
    let first := start {} {} "owner"
    let t := first.run attemptedAgain
    let pass : List Exchange := [⟨.addAddress ⟨.ipv4, 0x0A0A0002, by decide⟩ 32, none⟩,
      ⟨.allowFamily .ipv6, none⟩, ⟨.disallowApp "owner", none⟩, ⟨.setMtu 1500, none⟩]
    first.lastPass none attemptedAgain = some pass ∧
    Platform.agreeing.AnswersAlike 3 (t.host.create "").1.events pass ∧
    (t.reestablish .agreeing).1.host.events =
      (t.host.create "").1.events ++ pass.map (Exchange.event 3) ++ [.established 3 .up] := by
  intro first t pass
  have hlast : first.lastPass none attemptedAgain = some pass := by decide +kernel
  have halike (events : List Event) : Platform.agreeing.AnswersAlike 3 events pass := by
    intro before x after hpass
    have hx : x ∈ pass := by simp [hpass]
    have hnone : ∀ y ∈ pass, y.answer = none := by decide
    rw [Host.answerTo_agreeing, hnone x hx]
  have hbuilders : ((start {} {} "owner").run attemptedAgain).host.builders.length = 3 := by
    decide +kernel
  have hname : ∀ s ∈ ((start {} {} "owner").run attemptedAgain).session, s.profile.name = "" := by
    decide +kernel
  obtain ⟨-, -, -, -, -, hagain⟩ := reestablish_repeats {} {} "owner" attemptedAgain .agreeing
  obtain ⟨s, hs, -, -, hevents⟩ := hagain pass hlast
  rw [hname s hs, hbuilders] at hevents
  obtain ⟨hevents, -⟩ := hevents (halike _)
  have hup (events : List Event) : Platform.agreeing.establish events 3 = .up := rfl
  rw [hup] at hevents
  refine ⟨hlast, halike _, ?_⟩
  rw [show t = (start {} {} "owner").run attemptedAgain from rfl, hevents]

end Tunnel

end SplitTunnel
