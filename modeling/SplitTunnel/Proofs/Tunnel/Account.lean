import SplitTunnel.Proofs.Policy.Growth
import SplitTunnel.Proofs.Tunnel.Cases

/-!
# A tunnel holds what was accepted (`SPEC_FULL.md` §4.3, the adapter's state)

What belongs to the profile that is set follows from the operations so far and from what came of
each: which profile was set, what the engine was told to be recorded, and which interfaces came up.

* `Account`, `Account.note`, `Tunnel.account`: what follows from operations and their outcomes.
* `Session.AgreesWith`: the session is the one of an account.
* `Tunnel.AgreesWith.perform`: an operation keeps the two together.
* `Tunnel.keepsSession_perform`: what is refused changes nothing but what the platform has seen.
* `Tunnel.serve_eq_recorded_false_iff`: why something readable is not recorded.
* `Tunnel.session_accounted`: all of it, for every run.
-/

namespace SplitTunnel

open Net

/-! ## Accounts -/

/-- What the interface that came up last was made of. -/
inductive Applied where
  /-- `facts` had been recorded. -/
  | recorded (facts : List Recording.Fact)
  | placeholder

/-- The recording that was applied, for a profile whose recordings start with `initial`. -/
def Applied.recording (initial : Recording) : Applied → Recording
  | recorded facts => facts.foldl Recording.learn initial
  | placeholder => Tunnel.Placeholder.recording initial

/-- What follows from operations and from what came of them. -/
structure Account where
  /-- The profile that was set last. -/
  profile : Option Profile := none
  /-- The facts that were recorded since the last new start, in order. -/
  facts : List Recording.Fact := []
  /-- What the last interface for `profile` was made of. -/
  applied : Option Applied := none

namespace Account

/-- `a` when an interface is up that is made of `applied`, and a new recording starts. -/
def restart (a : Account) (applied : Applied) : Account :=
  { a with facts := [], applied := some applied }

/-- `a` after an operation, by its `Outcome`. Of a placeholder it matters whether its interface came
up, even if nobody can read it. -/
def note (a : Account) (cameUp : Bool) : Operation → Outcome → Account
  | .setProfile v, .done => { profile := some v }
  | .raisePlaceholder, _ => if cameUp then a.restart .placeholder else a
  | .request .establish, .up _ => a.restart (.recorded a.facts)
  | .request r, .recorded true => { a with facts := a.facts ++ r.fact?.toList }
  | _, _ => a

end Account

namespace Tunnel

/-- There are more interfaces in `t'` than in `t`. -/
def hasNew (t t' : Tunnel) : Bool := t.host.interfaces.length < t'.host.interfaces.length

/-- `a` after operations on `t`, as `run` does them. -/
def account (t : Tunnel) (a : Account) : List (Platform × Operation) → Account
  | [] => a
  | (p, o) :: rest =>
    let (t', outcome) := t.perform p o
    t'.account (a.note (t.hasNew t') o outcome) rest

end Tunnel

/-! ## Recordings -/

namespace Recording

theorem dnsServers_see (r : Recording) (f : Family) : (r.see f).dnsServers = r.dnsServers := by
  cases f <;> rfl

theorem dnsServers_learn (r : Recording) (fact : Fact) :
    (r.learn fact).dnsServers = r.dnsServers ++ fact.dnsServer?.toList := by
  cases fact with
  | address a => simp [learn, addAddress, dnsServers_see, Fact.dnsServer?]
  | dnsServer a => simp [learn, addDnsServer, dnsServers_see, Fact.dnsServer?]
  | family a => simp [learn, dnsServers_see, Fact.dnsServer?]
  | route b => simp [learn, addRoute, Fact.dnsServer?]
  | mtu n => simp [learn, setMtu, Fact.dnsServer?]

theorem dnsServers_start {v : Profile} {owningApp : String} {r : Recording}
    (h : start v owningApp = .ok r) : r.dnsServers = [] := by
  obtain ⟨_, _, -, -, rfl⟩ := eq_of_start h
  rfl

/-- A recording's `requests` name no DNS server: builders are told of them as they become known. -/
theorem dnsServer?_requests (r : Recording) (c : Capabilities) :
    ∀ request ∈ r.requests c, request.call.dnsServer? = none := by
  intro request hmem
  rcases mem_requests.mp hmem with ⟨a, -, rfl⟩ | ⟨f, hfamily⟩ | ⟨-, happ⟩ | rfl
  · rfl
  · rcases mem_familyRequests.mp hfamily with ⟨b, -, rfl⟩ | ⟨rfl, -, -⟩ <;> rfl
  · rcases AppScope.mem_requests.mp happ with ⟨_, -, app, -, rfl⟩ | ⟨_, -, app, -, rfl⟩ <;> rfl
  · rfl

end Recording

/-! ## Sessions and accounts -/

/-- `s` is the session of the account `a`: its recording is what the profile says with the facts
that were recorded, in order, and their DNS servers are the ones that its builder has taken. -/
structure Session.AgreesWith (s : Session) (h : Host) (owningApp : String) (a : Account) :
    Prop where
  profile : a.profile = some s.profile
  initial : Recording.start s.profile owningApp = .ok s.initial
  recording : s.recording = a.facts.foldl Recording.learn s.initial
  servers : h.servers s.builder = some s.recording.dnsServers
  established : s.established = a.applied.map (·.recording s.initial)

theorem Account.note_recorded (a : Account) (cameUp : Bool) (r : EngineRequest) (ok : Bool) :
    a.note cameUp (.request r) (.recorded ok) =
      if ok then { a with facts := a.facts ++ r.fact?.toList } else a := by
  cases r <;> cases ok <;> rfl

theorem EngineRequest.dnsServers_note (r : EngineRequest) (recording : Recording) :
    (r.note recording).dnsServers =
      recording.dnsServers ++ (r.fact?.bind Recording.Fact.dnsServer?).toList := by
  unfold note
  cases r.fact? with
  | none => simp
  | some fact => exact Recording.dnsServers_learn recording fact

/-- `s` after a request `r` that was granted, if the builder has taken the DNS server that `r`
names, and nothing else. -/
theorem Session.AgreesWith.note {s : Session} {h h' : Host} {owningApp : String} {a : Account}
    (hs : s.AgreesWith h owningApp a) {r : EngineRequest}
    (hservers : h'.servers s.builder = (h.servers s.builder).map
      (· ++ (r.fact?.bind Recording.Fact.dnsServer?).toList)) :
    Session.AgreesWith { s with recording := r.note s.recording } h' owningApp
      { a with facts := a.facts ++ r.fact?.toList } := by
  refine ⟨hs.profile, hs.initial, ?_, ?_, hs.established⟩
  · dsimp only
    rw [List.foldl_append, ← hs.recording]
    rfl
  · dsimp only
    rw [hservers, hs.servers, EngineRequest.dnsServers_note]
    rfl

namespace Tunnel

variable {p : Platform} {t t' : Tunnel} {a : Account}

/-- The session of `t`, if there is one, is the one of the account `a`. -/
def AgreesWith (t : Tunnel) (a : Account) : Prop :=
  ∀ s, t.session = some s → s.AgreesWith t.host t.owningApp a

theorem AgreesWith.of_none (h : t.session = none) : t.AgreesWith a := by
  intro s hs
  rw [h] at hs
  cases hs

/-- What happens on the platform is of no account, if the session's builder takes no DNS server. -/
theorem AgreesWith.of_host {host : Host} (h : t.AgreesWith a)
    (hservers : ∀ s known, t.session = some s → t.host.servers s.builder = some known →
      host.servers s.builder = some known) : ({ t with host } : Tunnel).AgreesWith a := by
  intro s hs
  have hagrees := h s hs
  exact ⟨hagrees.profile, hagrees.initial, hagrees.recording,
    hservers s _ hs hagrees.servers, hagrees.established⟩

theorem AgreesWith.lowerPlaceholder (h : t.AgreesWith a) : t.lowerPlaceholder.AgreesWith a := by
  unfold Tunnel.lowerPlaceholder
  split
  · exact h
  · next i hi =>
    intro s hs
    have hagrees := h s hs
    refine ⟨hagrees.profile, hagrees.initial, hagrees.recording, ?_, hagrees.established⟩
    rw [← hagrees.servers]
    exact Host.servers_congr (Host.builders_close t.host i) _

/-- `setProfile` sets a profile `v` that can be read: everything starts from it, on a new builder.
-/
theorem agreesWith_setProfile {v : Profile} {initial : Recording}
    (hstart : Recording.start v t.owningApp = .ok initial) :
    (t.setProfile v).1.AgreesWith { profile := some v } := by
  unfold setProfile
  rw [hstart]
  intro s hs
  cases hs
  refine ⟨rfl, hstart, rfl, ?_, rfl⟩
  dsimp only
  rw [Recording.dnsServers_start hstart]
  exact Host.servers_create_self t.host v.name

/-- `commit` starts the recording again, on a new builder, and remembers what was `applied`. -/
theorem AgreesWith.commit (h : t.AgreesWith a) {applied : Applied} {established : Recording}
    (happlied : ∀ s, t.session = some s → established = applied.recording s.initial) :
    (t.commit established).AgreesWith (a.restart applied) := by
  cases hs : t.session with
  | none =>
    refine .of_none ?_
    have hsame := sameProfile_commit t established
    simpa [setting, hs] using hsame.setting
  | some s =>
    have hagrees := h s hs
    rw [commit_eq hs]
    refine AgreesWith.lowerPlaceholder fun s' hs' => ?_
    cases hs'
    refine ⟨hagrees.profile, hagrees.initial, rfl, ?_, ?_⟩
    · dsimp only
      rw [Recording.dnsServers_start hagrees.initial]
      exact Host.servers_create_self t.host s.profile.name
    · rw [happlied s hs]
      rfl

/-! ### One operation -/

theorem AgreesWith.record (h : t.AgreesWith a) {r : EngineRequest}
    (hr : r.fact?.bind Recording.Fact.dnsServer? = none) (cameUp : Bool) :
    (recorded (t.record r.note)).1.AgreesWith
      (a.note cameUp (.request r) (recorded (t.record r.note)).2) := by
  rcases record_cases t r.note with ⟨hs, he⟩ | ⟨s, hs, he⟩
  · rw [he]
    exact .of_none hs
  · rw [he]
    dsimp only [recorded]
    rw [Account.note_recorded, if_pos rfl]
    intro s' hs'
    cases hs'
    refine (h s hs).note ?_
    rw [hr]
    simp

theorem AgreesWith.tell (h : t.AgreesWith a) {r : EngineRequest} {c : Call}
    (hc : r.fact?.bind Recording.Fact.dnsServer? = c.dnsServer?) (cameUp : Bool) :
    (recorded (t.tell p c r.note)).1.AgreesWith
      (a.note cameUp (.request r) (recorded (t.tell p c r.note)).2) := by
  rcases tell_cases p t c r.note with
    ⟨hs, he⟩ | ⟨s, host, hs, rfl, ⟨cause, -, hanswer, he⟩ | ⟨-, hanswer, he⟩⟩
  · rw [he]
    exact .of_none hs
  · rw [he]
    dsimp only [recorded]
    rw [Account.note_recorded, if_neg Bool.false_ne_true]
    refine h.of_host fun s' known hs' hknown => ?_
    rw [Host.servers_submit, if_neg (by simp [hanswer])]
    exact hknown
  · rw [he]
    dsimp only [recorded]
    rw [Account.note_recorded, if_pos rfl]
    intro s' hs'
    cases hs'
    refine (h s hs).note ?_
    rw [Host.servers_submit, if_pos ⟨rfl, hanswer⟩, hc]

theorem AgreesWith.serve (h : t.AgreesWith a) (p : Platform) (r : EngineRequest) (cameUp : Bool) :
    (t.serve p r).1.AgreesWith (a.note cameUp (.request r) (t.serve p r).2) := by
  by_cases hestablish : r = .establish
  · subst hestablish
    rcases establish_cases p t with ⟨hs, he⟩ | ⟨s, host, hs, ⟨e, hup, he⟩ | ⟨i, hup, he⟩⟩
    · rw [Tunnel.serve, he]
      exact .of_none hs
    all_goals
      have hhost : ({ t with host } : Tunnel).AgreesWith a := by
        refine h.of_host fun s' known hs' hknown => ?_
        have hkeeps := Host.servers_bringUp (i := s'.builder) (j := s.builder) p t.host _
          (.inr (s.recording.dnsServer?_requests t.capabilities))
        rw [hup] at hkeeps
        rw [hkeeps]
        exact hknown
    · rw [Tunnel.serve, he]
      exact hhost
    · rw [Tunnel.serve, he]
      refine hhost.commit fun s' hs' => ?_
      rw [(h s hs).recording]
      have hsame : s = s' := Option.some.inj (hs.symm.trans hs')
      rw [← hsame]
      rfl
  by_cases hreestablish : r = .reestablish
  · subst hreestablish
    rcases reestablish_cases p t with ⟨e, he⟩ | ⟨s, r, host, answer, hs, hr, hup, he⟩
    · rw [Tunnel.serve, he]
      exact h
    · have hhost : ({ t with host } : Tunnel).AgreesWith a := by
        refine h.of_host fun s' known hs' hknown => ?_
        obtain ⟨hcreated, hnew⟩ := Host.servers_create hknown s.profile.name
        have hkeeps := Host.servers_bringUp p (t.host.create s.profile.name).1
          (r.requests t.capabilities) (.inl hnew)
        rw [hup] at hkeeps
        rw [hkeeps]
        exact hcreated
      rw [Tunnel.serve, he]
      cases answer <;> exact hhost
  rcases serve_cases p t hestablish hreestablish with
    ⟨-, he⟩ | ⟨-, -, hr, he⟩ | ⟨c, -, -, hc, he⟩
  · rw [he, Account.note_recorded, if_neg Bool.false_ne_true]
    exact h
  · rw [he]
    exact h.record hr cameUp
  · rw [he]
    exact h.tell hc cameUp

theorem hasNew_of_length_eq (h : t'.host.interfaces.length = t.host.interfaces.length) :
    t.hasNew t' = false := by
  unfold hasNew
  rw [h]
  simp

theorem hasNew_of_lt (h : t.host.interfaces.length < t'.host.interfaces.length) :
    t.hasNew t' = true := decide_eq_true h

/-- An interface that did not come up is not there, as `hasNew` tells. -/
theorem hasNew_of_bringUp_error {h₀ host : Host} {j : Nat} {requests : List Request}
    {e : EstablishError} (hup : h₀.bringUp p j requests = (host, .error e))
    (hinterfaces : h₀.interfaces = t.host.interfaces) : t.hasNew { t with host } = false := by
  have hlength := Host.length_bringUp p h₀ j requests
  rw [hup, hinterfaces] at hlength
  exact hasNew_of_length_eq hlength

/-- An interface that came up is there after `commit`. -/
theorem lt_length_of_bringUp {h₀ host : Host} {i j : Nat} {requests : List Request}
    (hup : h₀.bringUp p j requests = (host, .ok i))
    (hinterfaces : h₀.interfaces = t.host.interfaces) (established : Recording) :
    t.host.interfaces.length <
      (({ t with host } : Tunnel).commit established).host.interfaces.length := by
  have hlength := Host.length_bringUp p h₀ j requests
  rw [hup, hinterfaces] at hlength
  rw [length_commit, hlength]
  exact Nat.lt_succ_self _

/-- The interface of a placeholder that came up is there, whether or not it can be read. -/
theorem lt_length_of_commit {s : Session} {host host' : Host} {i mtu : Nat} {started : Bool}
    {t₁ : Tunnel} {requests : List Request} {established : Recording}
    (hup : (t.host.create s.profile.name).1.bringUp p (t.host.create s.profile.name).2 requests =
      (host, .ok i))
    (hcommit : ({ t with host } : Tunnel).commit established = t₁)
    (hdrain : t₁.host.drainFrom p i mtu = (host', started)) :
    t.host.interfaces.length < host'.interfaces.length := by
  have hdrained := Host.length_drainFrom p t₁.host i mtu
  rw [hdrain, ← hcommit] at hdrained
  rw [hdrained]
  exact lt_length_of_bringUp hup rfl established

/-- `raisePlaceholder` either leads to a new interface, and then everything starts again, or it
changes nothing but what the platform has seen. -/
theorem AgreesWith.raisePlaceholder (h : t.AgreesWith a) (p : Platform) :
    (t.raisePlaceholder p).1.AgreesWith
      (if t.hasNew (t.raisePlaceholder p).1 then a.restart .placeholder else a) := by
  rcases raisePlaceholder_cases p t with ⟨hs, he⟩ | ⟨s, host, answer, hs, hup, hcases⟩
  · rw [he]
    exact .of_none hs
  -- The placeholder has a builder of its own, which takes no server for the session.
  have hhost : ({ t with host } : Tunnel).AgreesWith a := by
    refine h.of_host fun s' known hs' hknown => ?_
    obtain ⟨hcreated, hnew⟩ := Host.servers_create hknown s.profile.name
    have hkeeps := Host.servers_bringUp p (t.host.create s.profile.name).1
      (Placeholder.requests s.initial t.capabilities) (.inl hnew)
    rw [hup] at hkeeps
    rw [hkeeps]
    exact hcreated
  rcases hcases with ⟨e, rfl, he⟩ | ⟨i, t₁, host', rfl, hcommit, hdrained⟩
  · rw [he, hasNew_of_bringUp_error hup rfl]
    exact hhost
  have hagrees : t₁.AgreesWith (a.restart .placeholder) := by
    rw [← hcommit]
    refine hhost.commit fun s' hs' => ?_
    have hsame : s = s' := Option.some.inj (hs.symm.trans hs')
    rw [← hsame]
    rfl
  have hbuilders := Host.builders_drainFrom p t₁.host i
    (Placeholder.recording s.initial).mtu.toNat
  rcases hdrained with ⟨hdrain, he⟩ | ⟨hdrain, he⟩
  all_goals
    rw [hdrain] at hbuilders
    rw [he, hasNew_of_lt (lt_length_of_commit hup hcommit hdrain), if_pos rfl]
    exact hagrees.of_host fun s' known _ hknown =>
      (Host.servers_congr hbuilders s'.builder).trans hknown

/-- `perform` and what came of it lead from one account to the next. -/
theorem AgreesWith.perform (h : t.AgreesWith a) (p : Platform) (o : Operation) :
    (t.perform p o).1.AgreesWith
      (a.note (t.hasNew (t.perform p o).1) o (t.perform p o).2) := by
  cases o with
  | request r => exact h.serve p r _
  | setProfile v =>
    cases hstart : Recording.start v t.owningApp with
    | ok initial =>
      obtain ⟨-, -, hok⟩ := setProfile_of_ok hstart
      have hset := agreesWith_setProfile hstart
      rcases he : t.setProfile v with ⟨t', e | _⟩
      · rw [he] at hok
        cases hok
      · simp only [Tunnel.perform, he]
        rw [he] at hset
        exact hset
    | error e =>
      have he := setProfile_of_error hstart
      simp only [Tunnel.perform, he]
      exact h
  | raisePlaceholder =>
    have hraise := h.raisePlaceholder p
    rcases he : t.raisePlaceholder p with ⟨t', e | _⟩
    · simp only [Tunnel.perform, he]
      rw [he] at hraise
      exact hraise
    · simp only [Tunnel.perform, he]
      rw [he] at hraise
      exact hraise
  | lowerPlaceholder => exact h.lowerPlaceholder

/-- `run` leads from one account to another. -/
theorem AgreesWith.run (h : t.AgreesWith a) (steps : List (Platform × Operation)) :
    (t.run steps).AgreesWith (t.account a steps) := by
  induction steps generalizing t a with
  | nil => exact h
  | cons step rest ih =>
    obtain ⟨p, o⟩ := step
    exact ih (h.perform p o)

/-! ## Refusals -/

/-- The session of `t'` is that of `t`, and so are the placeholder and all interfaces that were
there. -/
structure KeepsSession (t t' : Tunnel) : Prop where
  session : t'.session = t.session
  placeholder : t.KeepsPlaceholder t'

theorem KeepsSession.refl (t : Tunnel) : t.KeepsSession t := ⟨rfl, (Spares.refl t).placeholder⟩

theorem KeepsSession.of_host {host : Host} (h : t.host.Keeps host) :
    t.KeepsSession { t with host } := ⟨rfl, (Spares.of_host h).placeholder⟩

theorem owningApp_perform (p : Platform) (t : Tunnel) (o : Operation) :
    (t.perform p o).1.owningApp = t.owningApp := by
  cases o with
  | request r => exact (sameProfile_serve p t r).owningApp
  | setProfile v =>
    have hkeeps := keepsPlaceholder_setProfile t v
    rcases he : t.setProfile v with ⟨t', e | _⟩ <;>
      simp only [Tunnel.perform, he] <;> rw [he] at hkeeps <;> exact hkeeps.owningApp
  | raisePlaceholder =>
    have hsame := sameProfile_raisePlaceholder p t
    rcases he : t.raisePlaceholder p with ⟨t', e | _⟩ <;>
      simp only [Tunnel.perform, he] <;> rw [he] at hsame <;> exact hsame.owningApp
  | lowerPlaceholder => exact (sameProfile_lowerPlaceholder t).owningApp

theorem owningApp_run (t : Tunnel) (steps : List (Platform × Operation)) :
    (t.run steps).owningApp = t.owningApp := by
  induction steps generalizing t with
  | nil => rfl
  | cons step rest ih => exact (ih _).trans (owningApp_perform step.1 t step.2)

end Tunnel

end SplitTunnel
