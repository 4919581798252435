import SplitTunnel.Proofs.Platform.Servers
import SplitTunnel.Proofs.Policy.Placeholder
import SplitTunnel.Proofs.Tunnel.Placeholder

/-!
# What an operation on a tunnel does (`SPEC_FULL.md` §4.3)

Each operation is opened here once, and what holds of it is read off these statements.

* `Tunnel.record_cases`, `Tunnel.tell_cases`: a fact is recorded if a profile is set, and if the
  builder takes it.
* `EngineRequest.fact?`, `Tunnel.serve_cases`: what a request to record something says, and what
  comes of it.
* `Tunnel.establish_cases`, `Tunnel.reestablish_eq`, `Tunnel.raisePlaceholder_cases`: an interface
  comes up or not.
* `Tunnel.commit_eq`: what follows when one has come up.
-/

namespace SplitTunnel

open Net

/-! ## What a request says -/

/-- The DNS server that a `Fact` is about. -/
def Recording.Fact.dnsServer? : Recording.Fact → Option Address
  | .dnsServer a => some a
  | _ => none

namespace EngineRequest

/-- The fact that a request states, if what it says can be read. -/
def fact? : EngineRequest → Option Recording.Fact
  | addAddress address n =>
    (do InterfaceAddress.of? (← Tunnel.literal? address) (← Tunnel.length? n)).map .address
  | addRoute address n => (do Block.of? (← Tunnel.literal? address) (← Tunnel.length? n)).map .route
  | addDnsServer address => (Tunnel.literal? address).map .dnsServer
  | setMtu n => (Tunnel.mtu? n).map .mtu
  | addSearchDomain _ | establish | reestablish => none

/-- The request is to record something, and what it says can be read. A domain is any text. -/
def isReadable : EngineRequest → Bool
  | addSearchDomain _ => true
  | r => r.fact?.isSome

/-- `recording` when the request `r` has been granted. -/
def note (r : EngineRequest) (recording : Recording) : Recording :=
  r.fact?.toList.foldl Recording.learn recording

/-- What the session's builder is told at once. -/
def call? : EngineRequest → Option Call
  | addDnsServer address => (Tunnel.literal? address).map .addDnsServer
  | addSearchDomain domain => some (.addSearchDomain domain)
  | _ => none

end EngineRequest

namespace Tunnel

variable {p : Platform} {t : Tunnel} {s : Session}

/-! ## Recording -/

theorem record_cases (t : Tunnel) (f : Recording → Recording) :
    (t.session = none ∧ t.record f = (t, false)) ∨
    ∃ s, t.session = some s ∧
      t.record f = ({ t with session := some { s with recording := f s.recording } }, true) := by
  unfold record
  cases t.session with
  | none => exact .inl ⟨rfl, rfl⟩
  | some s => exact .inr ⟨s, rfl, rfl⟩

theorem tell_cases (p : Platform) (t : Tunnel) (c : Call) (f : Recording → Recording) :
    (t.session = none ∧ t.tell p c f = (t, false)) ∨
    ∃ s host, t.session = some s ∧ (t.host.submit p s.builder c).1 = host ∧
      ((∃ cause, p.answerTo t.host.events s.builder c = some cause ∧
          (t.host.submit p s.builder c).2 = some cause ∧
          t.tell p c f = ({ t with host }, false)) ∨
        (p.answerTo t.host.events s.builder c = none ∧
          (t.host.submit p s.builder c).2 = none ∧
          t.tell p c f =
            ({ t with host, session := some { s with recording := f s.recording } }, true))) := by
  unfold tell
  cases t.session with
  | none => exact .inl ⟨rfl, rfl⟩
  | some s =>
    refine .inr ⟨s, _, rfl, rfl, ?_⟩
    rcases Host.submit_cases p t.host s.builder c with ⟨cause, ha, he⟩ | ⟨ha, he⟩
    · exact .inl ⟨cause, ha, by rw [he], by simp only [he]⟩
    · exact .inr ⟨ha, by rw [he], by simp only [he]⟩

/-- `serve` reads what a request says, its literal, before anything else is done about it. -/
theorem literal_cases {α : Type} {r : EngineRequest} {literal? : Option α}
    {fact : α → Recording.Fact} (hfact : r.fact? = literal?.map fact)
    (hread : r.isReadable = r.fact?.isSome) :
    (literal? = none ∧ r.isReadable = false) ∨
    ∃ x, literal? = some x ∧ r.isReadable = true ∧ r.fact? = some (fact x) ∧
      r.note = fun recording => recording.learn (fact x) := by
  rw [hread]
  cases literal? with
  | none => exact .inl ⟨rfl, by rw [hfact]; rfl⟩
  | some x =>
    refine .inr ⟨x, rfl, by rw [hfact]; rfl, hfact, ?_⟩
    funext recording
    rw [EngineRequest.note, hfact]
    rfl

/-- What `serve` does with a request `r` to record something: what `r` says cannot be read, or it is
recorded at once, or the session's builder decides about it. -/
theorem serve_cases (p : Platform) (t : Tunnel) {r : EngineRequest} (he : r ≠ .establish)
    (hr : r ≠ .reestablish) :
    (r.isReadable = false ∧ t.serve p r = (t, .recorded false)) ∨
    (r.isReadable = true ∧ r.call? = none ∧ r.fact?.bind Recording.Fact.dnsServer? = none ∧
      t.serve p r = recorded (t.record r.note)) ∨
    ∃ c, r.isReadable = true ∧ r.call? = some c ∧
      r.fact?.bind Recording.Fact.dnsServer? = c.dnsServer? ∧
      t.serve p r = recorded (t.tell p c r.note) := by
  cases r with
  | addAddress address n =>
    rcases literal_cases (r := .addAddress address n) rfl rfl with
      ⟨h, hread⟩ | ⟨a, h, hread, hf, hn⟩
    · exact .inl ⟨hread, by simp only [serve, addAddress, h]; rfl⟩
    · refine .inr (.inl ⟨hread, rfl, by rw [hf]; rfl, ?_⟩)
      simp only [serve, addAddress, h, hn]
      rfl
  | addRoute address n =>
    rcases literal_cases (r := .addRoute address n) rfl rfl with ⟨h, hread⟩ | ⟨b, h, hread, hf, hn⟩
    · exact .inl ⟨hread, by simp only [serve, addRoute, h]; rfl⟩
    · refine .inr (.inl ⟨hread, rfl, by rw [hf]; rfl, ?_⟩)
      simp only [serve, addRoute, h, hn]
      rfl
  | setMtu n =>
    rcases literal_cases (r := .setMtu n) rfl rfl with ⟨h, hread⟩ | ⟨m, h, hread, hf, hn⟩
    · exact .inl ⟨hread, by simp only [serve, setMtu, h]; rfl⟩
    · refine .inr (.inl ⟨hread, rfl, by rw [hf]; rfl, ?_⟩)
      simp only [serve, setMtu, h, hn]
      rfl
  | addDnsServer address =>
    rcases literal_cases (r := .addDnsServer address) rfl rfl with
      ⟨h, hread⟩ | ⟨a, h, hread, hf, hn⟩
    · exact .inl ⟨hread, by simp only [serve, addDnsServer, h]; rfl⟩
    · refine .inr (.inr ⟨.addDnsServer a, hread, by rw [EngineRequest.call?, h]; rfl,
        by rw [hf]; rfl, ?_⟩)
      simp only [serve, addDnsServer, h, hn]
      rfl
  | addSearchDomain domain => exact .inr (.inr ⟨.addSearchDomain domain, rfl, rfl, rfl, rfl⟩)
  | establish => exact absurd rfl he
  | reestablish => exact absurd rfl hr

/-! ## Interfaces -/

/-- `commit` lowers the placeholder, and the session `s` starts again on a new builder. -/
theorem commit_eq (hs : t.session = some s) (established : Recording) :
    t.commit established = ({ t with
      host := (t.host.create s.profile.name).1
      session := some { s with
        builder := (t.host.create s.profile.name).2, recording := s.initial
        established := some established } } : Tunnel).lowerPlaceholder := by
  unfold commit
  rw [hs]

theorem length_record (t : Tunnel) (f : Recording → Recording) :
    (t.record f).1.host.interfaces.length = t.host.interfaces.length := by
  rcases record_cases t f with ⟨-, he⟩ | ⟨s, -, he⟩ <;> rw [he]

theorem length_tell (p : Platform) (t : Tunnel) (c : Call) (f : Recording → Recording) :
    (t.tell p c f).1.host.interfaces.length = t.host.interfaces.length := by
  rcases tell_cases p t c f with ⟨-, he⟩ | ⟨s, host, -, rfl, ⟨cause, -, -, he⟩ | ⟨-, -, he⟩⟩ <;>
    rw [he]
  all_goals exact congrArg List.length (Host.interfaces_submit p t.host s.builder c)

theorem length_lowerPlaceholder (t : Tunnel) :
    t.lowerPlaceholder.host.interfaces.length = t.host.interfaces.length := by
  unfold lowerPlaceholder
  split
  · rfl
  · exact Host.length_close ..

theorem length_commit (t : Tunnel) (established : Recording) :
    (t.commit established).host.interfaces.length = t.host.interfaces.length := by
  unfold commit
  split <;> exact length_lowerPlaceholder _

theorem establish_cases (p : Platform) (t : Tunnel) :
    (t.session = none ∧ t.establish p = (t, .error .noProfile)) ∨
    ∃ s host, t.session = some s ∧
      ((∃ e, t.host.bringUp p s.builder (s.recording.requests t.capabilities) = (host, .error e) ∧
          t.establish p = ({ t with host }, .error e)) ∨
        ∃ i, t.host.bringUp p s.builder (s.recording.requests t.capabilities) = (host, .ok i) ∧
          t.establish p = ({ t with host }.commit s.recording, .ok i)) := by
  unfold establish
  cases t.session with
  | none => exact .inl ⟨rfl, rfl⟩
  | some s =>
    rcases he : t.host.bringUp p s.builder (s.recording.requests t.capabilities) with ⟨host, e | i⟩
    · exact .inr ⟨s, host, rfl, .inl ⟨e, he, by simp only [he]⟩⟩
    · exact .inr ⟨s, host, rfl, .inr ⟨i, he, by simp only [he]⟩⟩

/-- The recording of the interface that was established last for the profile of `t`. -/
def established? (t : Tunnel) : Option Recording := t.session.bind Session.established

/-- `reestablish` has nothing to bring up again, or it asks a new builder for all of it. -/
theorem reestablish_eq (p : Platform) (t : Tunnel) :
    (t.established? = none ∧ t.reestablish p =
      (t, .error (if t.session.isSome then .nothingEstablished else .noProfile))) ∨
    ∃ s r host answer, t.session = some s ∧ s.established = some r ∧
      (t.host.create s.profile.name).1.bringUp p (t.host.create s.profile.name).2
        (r.requests t.capabilities) = (host, answer) ∧
      t.reestablish p = ({ t with host }, answer) := by
  unfold reestablish established?
  cases t.session with
  | none => exact .inl ⟨rfl, rfl⟩
  | some s =>
    cases hr : s.established with
    | none => exact .inl ⟨hr, by simp only [hr]; rfl⟩
    | some r =>
      rcases he : (t.host.create s.profile.name).1.bringUp p (t.host.create s.profile.name).2
        (r.requests t.capabilities) with ⟨host, e | i⟩
      · exact .inr ⟨s, r, host, _, rfl, hr, he, by simp only [hr, he]⟩
      · exact .inr ⟨s, r, host, _, rfl, hr, he, by simp only [hr, he]⟩

theorem reestablish_cases (p : Platform) (t : Tunnel) :
    (∃ e, t.reestablish p = (t, .error e)) ∨
    ∃ s r host answer, t.session = some s ∧ s.established = some r ∧
      (t.host.create s.profile.name).1.bringUp p (t.host.create s.profile.name).2
        (r.requests t.capabilities) = (host, answer) ∧
      t.reestablish p = ({ t with host }, answer) :=
  (reestablish_eq p t).imp_left fun ⟨_, he⟩ => ⟨_, he⟩

/-- The descriptor of an interface `j` that `serve` gives the engine is the engine's own. -/
theorem getElem?_serve_up {r : EngineRequest} {j : Nat} (hup : (t.serve p r).2 = .up j) :
    ∃ built, (t.serve p r).1.host.interfaces[j]? = some ⟨built, .engine⟩ := by
  by_cases hestablish : r = .establish
  · subst hestablish
    rw [serve, snd_came_eq_up] at hup
    rw [serve, fst_came]
    rcases establish_cases p t with ⟨-, he⟩ | ⟨s, host, -, ⟨e, -, he⟩ | ⟨k, hbring, he⟩⟩ <;>
      rw [he] at hup ⊢ <;> cases hup
    obtain ⟨built, hx⟩ := Host.getElem?_bringUp hbring
    exact ⟨built, getElem?_commit (t := { t with host }) hx rfl _⟩
  by_cases hreestablish : r = .reestablish
  · subst hreestablish
    rw [serve, snd_came_eq_up] at hup
    rw [serve, fst_came]
    rcases reestablish_cases p t with ⟨e, he⟩ | ⟨s, recording, host, answer, -, -, hbring, he⟩ <;>
      rw [he] at hup ⊢ <;> cases hup
    exact Host.getElem?_bringUp hbring
  rcases serve_cases p t hestablish hreestablish with ⟨-, he⟩ | ⟨-, -, -, he⟩ | ⟨c, -, -, -, he⟩ <;>
    rw [he] at hup <;> cases hup

/-- In `raisePlaceholder` the interface does not come up, or it comes up and then its reader starts
or not. -/
theorem raisePlaceholder_cases (p : Platform) (t : Tunnel) :
    (t.session = none ∧ t.raisePlaceholder p = (t, .error .noProfile)) ∨
    ∃ s host answer, t.session = some s ∧
      (t.host.create s.profile.name).1.bringUp p (t.host.create s.profile.name).2
        (Placeholder.requests s.initial t.capabilities) = (host, answer) ∧
      ((∃ e, answer = .error e ∧ t.raisePlaceholder p = ({ t with host }, .error e)) ∨
        ∃ i t₁ host', answer = .ok i ∧
          ({ t with host } : Tunnel).commit (Placeholder.recording s.initial) = t₁ ∧
          ((t₁.host.drainFrom p i (Placeholder.recording s.initial).mtu.toNat = (host', true) ∧
              t.raisePlaceholder p = ({ t₁ with host := host', placeholder := some i }, .ok ())) ∨
            (t₁.host.drainFrom p i (Placeholder.recording s.initial).mtu.toNat = (host', false) ∧
              t.raisePlaceholder p = ({ t₁ with host := host' }, .error .drainFailed)))) := by
  unfold raisePlaceholder
  cases hs : t.session with
  | none => exact .inl ⟨rfl, rfl⟩
  | some s =>
    rcases he : (t.host.create s.profile.name).1.bringUp p (t.host.create s.profile.name).2
      (Placeholder.requests s.initial t.capabilities) with ⟨host, e | i⟩
    · exact .inr ⟨s, host, _, rfl, he, .inl ⟨e, rfl, by simp only [he]⟩⟩
    · rcases hd : ({ t with host, session := some s }.commit
        (Placeholder.recording s.initial)).host.drainFrom p i
        (Placeholder.recording s.initial).mtu.toNat with ⟨host', _ | _⟩
      · exact .inr ⟨s, host, _, rfl, he, .inr ⟨i, _, host', rfl, rfl, .inr ⟨hd, by simp [he, hd]⟩⟩⟩
      · exact .inr ⟨s, host, _, rfl, he, .inr ⟨i, _, host', rfl, rfl, .inl ⟨hd, by simp [he, hd]⟩⟩⟩

end Tunnel

end SplitTunnel
