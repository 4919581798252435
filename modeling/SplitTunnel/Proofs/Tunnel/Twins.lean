import SplitTunnel.Proofs.Platform.Records
import SplitTunnel.Proofs.Tunnel.Life

/-!
# Tunnels that answer alike (`SPEC_FULL.md` §4.3, what the engine sees)

What a tunnel does for the engine depends on its session and on what happened at the session's
builder. Neither other builders nor interfaces nor the placeholder have a part in it.

* `Tunnel.reply`: what comes of a request, with all that happened at the builder of the interface.
* `Tunnel.Twins`: the sessions of two tunnels are the same, and the same happened at their builders.
* `Tunnel.Twins.serve`, `Tunnel.Twins.perform`: whatever is done to both, they answer alike, and
  stay so.
-/

namespace SplitTunnel

namespace Tunnel

open Host (OnlyAt)

/-- What comes of a request, with all that happened at the builder if an interface comes up. -/
def answer : Tunnel × Outcome → Except Outcome (List BuilderEvent)
  | (t, .up i) => .ok (t.host.recordOf i)
  | (_, outcome) => .error outcome

/-- What comes of the request `r` of the engine to `t`. -/
def reply (p : Platform) (t : Tunnel) (r : EngineRequest) : Except Outcome (List BuilderEvent) :=
  answer (t.serve p r)

/-- `t` and `t'` have the same session but for the number of its builder, and the same happened at
both builders. -/
structure Twins (t t' : Tunnel) : Prop where
  capabilities : t'.capabilities = t.capabilities
  owningApp : t'.owningApp = t.owningApp
  left : t.host.Numbered
  right : t'.host.Numbered
  session : (t.session = none ∧ t'.session = none) ∨
    ∃ s j, t.session = some s ∧ t'.session = some { s with builder := j } ∧
      Host.Twins t.host s.builder t'.host j

/-- The builders and the session of `t'` are those of `t`. -/
structure KeepsBuilders (t t' : Tunnel) : Prop where
  host : OnlyAt none t.host t'.host
  session : t'.session = t.session
  capabilities : t'.capabilities = t.capabilities
  owningApp : t'.owningApp = t.owningApp

variable {p q : Platform} {t t' t₁ t₂ : Tunnel} {host host' : Host} {s : Session} {b i j : Nat}

theorem twins_start (allowed supported : Capabilities) (owningApp : String) :
    (start allowed supported owningApp).Twins (start allowed supported owningApp) :=
  ⟨rfl, rfl, ⟨fun _ _ => rfl, rfl⟩, ⟨fun _ _ => rfl, rfl⟩, .inl ⟨rfl, rfl⟩⟩

/-! ## Descriptors -/

theorem keepsBuilders_lowerPlaceholder (t : Tunnel) : t.KeepsBuilders t.lowerPlaceholder := by
  unfold lowerPlaceholder
  split
  · exact ⟨.refl none _, rfl, rfl, rfl⟩
  · exact ⟨Host.onlyAt_close _ _, rfl, rfl, rfl⟩

theorem Twins.of_keepsBuilders (h : t.Twins t') (hl : t.KeepsBuilders t₁)
    (hr : t'.KeepsBuilders t₂) : t₁.Twins t₂ := by
  refine ⟨?_, ?_, h.left.of_onlyAt hl.host nofun, h.right.of_onlyAt hr.host nofun, ?_⟩
  · rw [hr.capabilities, hl.capabilities, h.capabilities]
  · rw [hr.owningApp, hl.owningApp, h.owningApp]
  · rcases h.session with ⟨hs, hs'⟩ | ⟨s, j, hs, hs', hb⟩
    · exact .inl ⟨hl.session.trans hs, hr.session.trans hs'⟩
    · exact .inr ⟨s, j, hl.session.trans hs, hr.session.trans hs',
        hb.of_onlyAt hl.host nofun hr.host nofun⟩

theorem Twins.lowerPlaceholder (h : t.Twins t') : t.lowerPlaceholder.Twins t'.lowerPlaceholder :=
  h.of_keepsBuilders (keepsBuilders_lowerPlaceholder t) (keepsBuilders_lowerPlaceholder t')

/-! ## Recording -/

theorem Twins.record (h : t.Twins t') (f : Recording → Recording) :
    (t.record f).2 = (t'.record f).2 ∧ (t.record f).1.Twins (t'.record f).1 := by
  rw [Tunnel.record, Tunnel.record]
  rcases h.session with ⟨hs, hs'⟩ | ⟨s, j, hs, hs', hb⟩ <;> rw [hs, hs']
  · exact ⟨rfl, h⟩
  · exact ⟨rfl, h.capabilities, h.owningApp, h.left, h.right, .inr ⟨_, j, rfl, rfl, hb⟩⟩

/-- Something is done at the builders `k` and `l`, one on each side, and the sessions and their
builders fit together then. -/
theorem Twins.of_onlyAt (h : t.Twins t') {session session' : Option Session} {k l : Nat}
    (hl : OnlyAt (some k) t.host host) (hk : k < t.host.builders.length)
    (hr : OnlyAt (some l) t'.host host') (hl' : l < t'.host.builders.length)
    (hsession : ∃ s j, session = some s ∧ session' = some { s with builder := j } ∧
      Host.Twins host s.builder host' j) :
    ({ t with host, session } : Tunnel).Twins { t' with host := host', session := session' } :=
  ⟨h.capabilities, h.owningApp, h.left.of_onlyAt hl fun _ hi => Option.some.inj hi ▸ hk,
    h.right.of_onlyAt hr fun _ hi => Option.some.inj hi ▸ hl', .inr hsession⟩

theorem Twins.tell (h : t.Twins t') (ha : p.Alike q) (c : Call) (f : Recording → Recording) :
    (t.tell p c f).2 = (t'.tell q c f).2 ∧ (t.tell p c f).1.Twins (t'.tell q c f).1 := by
  rcases h.session with ⟨hs, hs'⟩ | ⟨s, j, hs, hs', hb⟩
  · rw [Tunnel.tell, Tunnel.tell, hs, hs']
    exact ⟨rfl, h⟩
  · obtain ⟨hanswer, hb'⟩ := hb.submit ha c
    have hl := Host.onlyAt_submit p t.host s.builder c
    have hr := Host.onlyAt_submit q t'.host j c
    rw [Tunnel.tell, Tunnel.tell, hs, hs']
    dsimp only
    rcases he : t.host.submit p s.builder c with ⟨host, cause⟩
    rcases he' : t'.host.submit q j c with ⟨host', cause'⟩
    rw [he, he'] at hanswer hb'
    rw [he] at hl
    rw [he'] at hr
    obtain rfl : cause = cause' := hanswer
    cases cause with
    | some cause => exact ⟨rfl, h.of_onlyAt hl hb.left hr hb.right ⟨s, j, rfl, rfl, hb'⟩⟩
    | none => exact ⟨rfl, h.of_onlyAt hl hb.left hr hb.right ⟨_, j, rfl, rfl, hb'⟩⟩

/-! ## Interfaces -/

theorem Twins.commit (h : t.Twins t') (established : Recording) :
    (t.commit established).Twins (t'.commit established) := by
  rcases h.session with ⟨hs, hs'⟩ | ⟨s, j, hs, hs', hb⟩
  · rw [Tunnel.commit, Tunnel.commit, hs, hs']
    exact h.lowerPlaceholder
  · rw [commit_eq hs, commit_eq hs']
    refine Twins.lowerPlaceholder ⟨h.capabilities, h.owningApp, h.left.create _, h.right.create _,
      .inr ⟨_, _, rfl, rfl, ?_⟩⟩
    exact Host.twins_create h.left h.right s.profile.name

/-- What happened at the builder of an interface is as it was after `commit`, when a new recording
starts. -/
theorem recordOf_commit (hp : t.host.providers[i]? = some b) (hb : b < t.host.builders.length)
    (established : Recording) : (t.commit established).host.recordOf i = t.host.record b := by
  have hlower {t₁ : Tunnel} (hp : t₁.host.providers[i]? = some b) :
      t₁.lowerPlaceholder.host.recordOf i = t₁.host.record b := by
    have hkeeps := (keepsBuilders_lowerPlaceholder t₁).host
    rw [Host.recordOf, hkeeps.getElem?_providers hp]
    exact hkeeps.record b nofun
  cases hs : t.session with
  | none =>
    rw [Tunnel.commit, hs]
    exact hlower hp
  | some s =>
    rw [commit_eq hs, hlower]
    · exact Host.record_create_of_ne t.host s.profile.name (Nat.ne_of_lt hb)
    · exact (Host.providers_create t.host s.profile.name).symm ▸ hp

theorem Twins.establish (h : t.Twins t') (ha : p.Alike q) :
    answer (came (t.establish p)) = answer (came (t'.establish q)) ∧
      (t.establish p).1.Twins (t'.establish q).1 := by
  rcases h.session with ⟨hs, hs'⟩ | ⟨s, j, hs, hs', hb⟩
  · rw [Tunnel.establish, Tunnel.establish, hs, hs']
    exact ⟨rfl, h⟩
  · obtain ⟨host, host', hl, hr, hb', hup⟩ :=
      hb.bringUp h.left h.right ha (s.recording.requests t.capabilities)
    have htwins := h.of_onlyAt hl hb.left hr hb.right ⟨s, j, hs, hs', hb'⟩
    rcases hup with ⟨e, he, he'⟩ | ⟨m, n, he, he', hm, hn⟩
    · have hl' : t.establish p = ({ t with host }, .error e) := by
        simp only [Tunnel.establish, hs, he]
      have hr' : t'.establish q = ({ t' with host := host' }, .error e) := by
        simp only [Tunnel.establish, hs', h.capabilities, he']
      rw [hl', hr']
      exact ⟨rfl, htwins⟩
    · have hl' : t.establish p = ({ t with host }.commit s.recording, .ok m) := by
        simp only [Tunnel.establish, hs, he]
      have hr' : t'.establish q = ({ t' with host := host' }.commit s.recording, .ok n) := by
        simp only [Tunnel.establish, hs', h.capabilities, he']
      rw [hl', hr']
      refine ⟨?_, htwins.commit s.recording⟩
      show Except.ok _ = Except.ok _
      rw [recordOf_commit hm hb'.left, recordOf_commit hn hb'.right, hb'.record]

/-- On each side `requests` are put to a builder of its own. -/
theorem Twins.bringUp_create (h : t.Twins t') (ha : p.Alike q) (session : String)
    (requests : List Request) :
    ∃ host host', ({ t with host } : Tunnel).Twins { t' with host := host' } ∧
      ((∃ e, (t.host.create session).1.bringUp p (t.host.create session).2 requests =
            (host, .error e) ∧
          (t'.host.create session).1.bringUp q (t'.host.create session).2 requests =
            (host', .error e)) ∨
        ∃ m n, (t.host.create session).1.bringUp p (t.host.create session).2 requests =
            (host, .ok m) ∧
          (t'.host.create session).1.bringUp q (t'.host.create session).2 requests =
            (host', .ok n) ∧
          host.recordOf m = host'.recordOf n) := by
  have hmade := Host.twins_create h.left h.right session
  have hl := h.left.create session
  have hr := h.right.create session
  obtain ⟨host, host', hal, har, hb', hup⟩ := hmade.bringUp hl hr ha requests
  refine ⟨host, host', ⟨h.capabilities, h.owningApp,
    hl.of_onlyAt hal fun _ hi => Option.some.inj hi ▸ hmade.left,
    hr.of_onlyAt har fun _ hi => Option.some.inj hi ▸ hmade.right, ?_⟩, ?_⟩
  · rcases h.session with hnone | ⟨s, j, hs, hs', hb⟩
    · exact .inl hnone
    · refine .inr ⟨s, j, hs, hs', (hb.create session session).of_onlyAt hal ?_ har ?_⟩
      · exact fun hi => Nat.ne_of_lt hb.left (Option.some.inj hi)
      · exact fun hi => Nat.ne_of_lt hb.right (Option.some.inj hi)
  · rcases hup with herror | ⟨m, n, he, he', hm, hn⟩
    · exact .inl herror
    · refine .inr ⟨m, n, he, he', ?_⟩
      rw [Host.recordOf, Host.recordOf, hm, hn]
      exact hb'.record

theorem Twins.reestablish (h : t.Twins t') (ha : p.Alike q) :
    answer (came (t.reestablish p)) = answer (came (t'.reestablish q)) ∧
      (t.reestablish p).1.Twins (t'.reestablish q).1 := by
  rcases h.session with ⟨hs, hs'⟩ | ⟨s, j, hs, hs', -⟩
  · rw [Tunnel.reestablish, Tunnel.reestablish, hs, hs']
    exact ⟨rfl, h⟩
  · cases hr : s.established with
    | none =>
      have hl' : t.reestablish p = (t, .error .nothingEstablished) := by
        simp only [Tunnel.reestablish, hs, hr]
      have hr' : t'.reestablish q = (t', .error .nothingEstablished) := by
        simp only [Tunnel.reestablish, hs', hr]
      rw [hl', hr']
      exact ⟨rfl, h⟩
    | some r =>
      obtain ⟨host, host', htwins, hup⟩ :=
        h.bringUp_create ha s.profile.name (r.requests t.capabilities)
      rcases hup with ⟨e, he, he'⟩ | ⟨m, n, he, he', hrecord⟩
      · have hl' : t.reestablish p = ({ t with host }, .error e) := by
          simp only [Tunnel.reestablish, hs, hr, he]
        have hr' : t'.reestablish q = ({ t' with host := host' }, .error e) := by
          simp only [Tunnel.reestablish, hs', hr, h.capabilities, he']
        rw [hl', hr']
        exact ⟨rfl, htwins⟩
      · have hl' : t.reestablish p = ({ t with host }, .ok m) := by
          simp only [Tunnel.reestablish, hs, hr, he]
        have hr' : t'.reestablish q = ({ t' with host := host' }, .ok n) := by
          simp only [Tunnel.reestablish, hs', hr, h.capabilities, he']
        rw [hl', hr']
        exact ⟨congrArg Except.ok hrecord, htwins⟩

/-- Once the interface of a placeholder is up, the session is another one whether or not its reader
starts. -/
theorem keepsBuilders_raisePlaceholder (hs : t.session = some s)
    (hup : (t.host.create s.profile.name).1.bringUp p (t.host.create s.profile.name).2
      (Placeholder.requests s.initial t.capabilities) = (host, .ok i)) :
    (({ t with host } : Tunnel).commit (Placeholder.recording s.initial)).KeepsBuilders
      (t.raisePlaceholder p).1 := by
  rcases raisePlaceholder_cases p t with ⟨hnone, -⟩ |
    ⟨s₁, host₁, answer, hs₁, hup₁, ⟨e, he, -⟩ | ⟨m, t₁, host', he, ht₁, hdrain⟩⟩
  · cases hs.symm.trans hnone
  · obtain rfl : s = s₁ := Option.some.inj (hs.symm.trans hs₁)
    rw [hup, he] at hup₁
    cases hup₁
  · obtain rfl : s = s₁ := Option.some.inj (hs.symm.trans hs₁)
    rw [hup, he] at hup₁
    cases hup₁
    rw [ht₁]
    have hkeeps := Host.onlyAt_drainFrom p t₁.host i (Placeholder.recording s.initial).mtu.toNat
    rcases hdrain with ⟨hd, heq⟩ | ⟨hd, heq⟩
    · rw [heq]
      rw [hd] at hkeeps
      exact ⟨hkeeps, rfl, rfl, rfl⟩
    · rw [heq]
      rw [hd] at hkeeps
      exact ⟨hkeeps, rfl, rfl, rfl⟩

theorem Twins.raisePlaceholder (h : t.Twins t') (ha : p.Alike q) :
    (t.raisePlaceholder p).1.Twins (t'.raisePlaceholder q).1 := by
  rcases h.session with ⟨hs, hs'⟩ | ⟨s, j, hs, hs', -⟩
  · rw [Tunnel.raisePlaceholder, Tunnel.raisePlaceholder, hs, hs']
    exact h
  · obtain ⟨host, host', htwins, hup⟩ :=
      h.bringUp_create ha s.profile.name (Placeholder.requests s.initial t.capabilities)
    rcases hup with ⟨e, he, he'⟩ | ⟨m, n, he, he', -⟩
    · have hl' : t.raisePlaceholder p = ({ t with host }, .error e) := by
        simp only [Tunnel.raisePlaceholder, hs, he]
      have hr' : t'.raisePlaceholder q = ({ t' with host := host' }, .error e) := by
        simp only [Tunnel.raisePlaceholder, hs', h.capabilities, he']
      rw [hl', hr']
      exact htwins
    · rw [← h.capabilities] at he'
      exact (htwins.commit (Placeholder.recording s.initial)).of_keepsBuilders
        (keepsBuilders_raisePlaceholder hs he)
        (keepsBuilders_raisePlaceholder (s := { s with builder := j }) hs' he')

/-! ## Operations -/

/-- `setProfile` makes twins of tunnels with any sessions. -/
theorem twins_setProfile (capabilities : t'.capabilities = t.capabilities)
    (owningApp : t'.owningApp = t.owningApp) (left : t.host.Numbered) (right : t'.host.Numbered)
    {v : Profile} (hok : (t.setProfile v).2.isOk = true) :
    (t.setProfile v).1.Twins (t'.setProfile v).1 := by
  rw [Tunnel.setProfile] at hok
  rw [Tunnel.setProfile, Tunnel.setProfile, owningApp]
  cases hstart : Recording.start v t.owningApp with
  | error e =>
    rw [hstart] at hok
    cases hok
  | ok initial =>
    exact ⟨capabilities, rfl, left.create v.name, right.create v.name,
      .inr ⟨_, _, rfl, rfl, Host.twins_create left right v.name⟩⟩

theorem Twins.setProfile (h : t.Twins t') (v : Profile) :
    (t.setProfile v).1.Twins (t'.setProfile v).1 := by
  cases hstart : Recording.start v t.owningApp with
  | error e =>
    rw [setProfile_of_error hstart, setProfile_of_error (h.owningApp ▸ hstart)]
    exact h
  | ok initial =>
    refine twins_setProfile h.capabilities h.owningApp h.left h.right ?_
    rw [(setProfile_of_ok hstart).2.2]
    rfl

theorem twins_recorded {x y : Tunnel × Bool} (h : x.2 = y.2 ∧ x.1.Twins y.1) :
    answer (recorded x) = answer (recorded y) ∧ (recorded x).1.Twins (recorded y).1 := by
  obtain ⟨t, ok⟩ := x
  obtain ⟨t', ok'⟩ := y
  obtain ⟨rfl : ok = ok', htwins⟩ := h
  exact ⟨rfl, htwins⟩

/-- `serve` gives the engine the same answer, and the same happened at the builders of its
interfaces. -/
theorem Twins.serve (h : t.Twins t') (ha : p.Alike q) (r : EngineRequest) :
    t.reply p r = t'.reply q r ∧ (t.serve p r).1.Twins (t'.serve q r).1 := by
  have hnot : answer (Tunnel.recorded (t, false)) = answer (Tunnel.recorded (t', false)) ∧
      t.Twins t' := ⟨rfl, h⟩
  rw [reply, reply]
  cases r with
  | addAddress address n =>
    rw [Tunnel.serve, Tunnel.serve, addAddress, addAddress]
    split
    · exact hnot
    · exact twins_recorded (h.record _)
  | addRoute address n =>
    rw [Tunnel.serve, Tunnel.serve, addRoute, addRoute]
    split
    · exact hnot
    · exact twins_recorded (h.record _)
  | addDnsServer address =>
    rw [Tunnel.serve, Tunnel.serve, addDnsServer, addDnsServer]
    split
    · exact hnot
    · exact twins_recorded (h.tell ha _ _)
  | addSearchDomain domain => exact twins_recorded (h.tell ha _ _)
  | setMtu n =>
    rw [Tunnel.serve, Tunnel.serve, setMtu, setMtu]
    split
    · exact hnot
    · exact twins_recorded (h.record _)
  | establish =>
    rw [Tunnel.serve, Tunnel.serve, fst_came, fst_came]
    exact h.establish ha
  | reestablish =>
    rw [Tunnel.serve, Tunnel.serve, fst_came, fst_came]
    exact h.reestablish ha

theorem Twins.perform (h : t.Twins t') (ha : p.Alike q) (o : Operation) :
    (t.perform p o).1.Twins (t'.perform q o).1 := by
  cases o with
  | request r => exact (h.serve ha r).2
  | setProfile v =>
    rw [fst_perform_setProfile, fst_perform_setProfile]
    exact h.setProfile v
  | raisePlaceholder =>
    rw [fst_perform_raisePlaceholder, fst_perform_raisePlaceholder]
    exact h.raisePlaceholder ha
  | lowerPlaceholder => exact h.lowerPlaceholder

theorem KeepsBuilders.refl (t : Tunnel) : t.KeepsBuilders t := ⟨.refl none t.host, rfl, rfl, rfl⟩

/-! ## What stays -/

theorem capabilities_perform (p : Platform) (t : Tunnel) (o : Operation) :
    (t.perform p o).1.capabilities = t.capabilities ∧
      (t.perform p o).1.owningApp = t.owningApp := by
  cases o with
  | request r =>
    have hsame := sameProfile_serve p t r
    exact ⟨hsame.capabilities, hsame.owningApp⟩
  | setProfile v =>
    have hkeeps := keepsPlaceholder_setProfile t v
    rw [fst_perform_setProfile]
    exact ⟨hkeeps.capabilities, hkeeps.owningApp⟩
  | raisePlaceholder =>
    have hsame := sameProfile_raisePlaceholder p t
    rw [fst_perform_raisePlaceholder]
    exact ⟨hsame.capabilities, hsame.owningApp⟩
  | lowerPlaceholder =>
    have hsame := sameProfile_lowerPlaceholder t
    exact ⟨hsame.capabilities, hsame.owningApp⟩

end Tunnel

end SplitTunnel
