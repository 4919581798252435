import SplitTunnel.Proofs.Platform.Host
import SplitTunnel.Tunnel.Operation

/-!
# What becomes of a placeholder (`SPEC_FULL.md` §4.3, `establish_blocking`)

* `Tunnel.SetTo`: the profile that is set. Nothing but `Tunnel.setProfile` changes it
  (`Tunnel.SameProfile`).
* `Tunnel.StandsInFor`: a placeholder for a profile is up. What the engine asks for leaves it alone
  (`Tunnel.KeepsPlaceholder`), unless it brings up an interface.
* `Tunnel.standsInFor_raisePlaceholder`: a placeholder for the profile that is set.
-/

namespace SplitTunnel.Tunnel

variable {p : Platform} {t t' t'' : Tunnel} {v : Profile} {reader : Drain}

/-- The profile that is set in `t`, and what its recordings start from. -/
def setting (t : Tunnel) : Option (Profile × Recording) :=
  t.session.map fun s => (s.profile, s.initial)

/-- The given profile is set, if any, and recordings start from what it says. -/
def SetTo (t : Tunnel) : Option Profile → Prop
  | none => t.setting = none
  | some v => ∃ initial, t.setting = some (v, initial) ∧
      Recording.start v t.owningApp = .ok initial

/-- A placeholder for `v` is up: an interface that was asked for all that such a placeholder asks
for, with a reader that nobody has asked to stop. -/
def StandsInFor (t : Tunnel) (v : Profile) (reader : Drain) : Prop :=
  reader.stopRequested = false ∧ ∃ initial i, Recording.start v t.owningApp = .ok initial ∧
    t.placeholder = some i ∧ t.host.interfaces[i]? =
      some ⟨⟨v.name, (Placeholder.requests initial t.capabilities).map Request.call⟩, .drain reader⟩

/-- The profile of `t` is that of `t'`. -/
structure SameProfile (t t' : Tunnel) : Prop where
  capabilities : t'.capabilities = t.capabilities
  owningApp : t'.owningApp = t.owningApp
  setting : t'.setting = t.setting

/-- The same interface stands in for the next one, and it is as it was. -/
structure KeepsPlaceholder (t t' : Tunnel) : Prop where
  capabilities : t'.capabilities = t.capabilities
  owningApp : t'.owningApp = t.owningApp
  placeholder : t'.placeholder = t.placeholder
  interfaces : t.host.Keeps t'.host

/-- Neither the profile nor the placeholder of `t'` is another one. -/
structure Spares (t t' : Tunnel) : Prop where
  profile : t.SameProfile t'
  placeholder : t.KeepsPlaceholder t'

theorem SameProfile.refl (t : Tunnel) : t.SameProfile t := ⟨rfl, rfl, rfl⟩

theorem SameProfile.trans (h : t.SameProfile t') (h' : t'.SameProfile t'') : t.SameProfile t'' :=
  ⟨h'.capabilities.trans h.capabilities, h'.owningApp.trans h.owningApp,
    h'.setting.trans h.setting⟩

theorem SameProfile.setTo {q : Option Profile} (h : t.SameProfile t') (hq : t.SetTo q) :
    t'.SetTo q := by
  cases q with
  | none => exact h.setting.trans hq
  | some v =>
    obtain ⟨initial, hset, hstart⟩ := hq
    exact ⟨initial, h.setting.trans hset, by rwa [h.owningApp]⟩

theorem KeepsPlaceholder.standsInFor (h : t.KeepsPlaceholder t') (hv : t.StandsInFor v reader) :
    t'.StandsInFor v reader := by
  obtain ⟨hstop, initial, i, hstart, hi, hx⟩ := hv
  refine ⟨hstop, initial, i, by rwa [h.owningApp], h.placeholder.trans hi, ?_⟩
  rw [h.capabilities]
  exact h.interfaces.getElem? hx

theorem Spares.refl (t : Tunnel) : t.Spares t := ⟨.refl t, ⟨rfl, rfl, rfl, .refl _⟩⟩

/-- A change of the host only, in which the interfaces stay, spares `t`. -/
theorem Spares.of_host {host : Host} (h : t.host.Keeps host) : t.Spares { t with host } :=
  ⟨⟨rfl, rfl, rfl⟩, ⟨rfl, rfl, rfl, h⟩⟩

/-! ## What the engine asks for -/

theorem spares_record (t : Tunnel) (f : Recording → Recording) : t.Spares (t.record f).1 := by
  unfold record
  split
  · exact .refl t
  · next s hs => exact ⟨⟨rfl, rfl, by simp [setting, hs]⟩, ⟨rfl, rfl, rfl, .refl _⟩⟩

theorem spares_tell (p : Platform) (t : Tunnel) (c : Call) (f : Recording → Recording) :
    t.Spares (t.tell p c f).1 := by
  unfold tell
  split
  · exact .refl t
  · next s hs =>
    have hi := Host.interfaces_submit p t.host s.builder c
    split
    · next host cause he =>
      rw [he] at hi
      exact .of_host (.of_eq hi)
    · next host he =>
      rw [he] at hi
      exact ⟨⟨rfl, rfl, by simp [setting, hs]⟩, ⟨rfl, rfl, rfl, .of_eq hi⟩⟩

theorem sameProfile_lowerPlaceholder (t : Tunnel) : t.SameProfile t.lowerPlaceholder := by
  unfold lowerPlaceholder
  split <;> exact ⟨rfl, rfl, rfl⟩

theorem sameProfile_commit (t : Tunnel) (established : Recording) :
    t.SameProfile (t.commit established) := by
  unfold commit
  split
  · exact sameProfile_lowerPlaceholder t
  · next s hs =>
    refine SameProfile.trans ?_ (sameProfile_lowerPlaceholder _)
    exact ⟨rfl, rfl, by simp [setting, hs]⟩

theorem sameProfile_establish (p : Platform) (t : Tunnel) :
    t.SameProfile (t.establish p).1 := by
  unfold establish
  split
  · exact .refl t
  · split
    · exact ⟨rfl, rfl, rfl⟩
    · next host i he =>
      have h : t.SameProfile { t with host } := ⟨rfl, rfl, rfl⟩
      exact h.trans (sameProfile_commit _ _)

/-- `establish` leaves everything as it was if the interface does not come up. -/
theorem keepsPlaceholder_establish (h : ∀ i, (t.establish p).2 ≠ .ok i) :
    t.KeepsPlaceholder (t.establish p).1 := by
  unfold establish at *
  split
  · exact (Spares.refl t).placeholder
  · next s hs =>
    have hk := Host.keeps_bringUp p t.host s.builder (s.recording.requests t.capabilities)
    split
    · next host e he =>
      rw [he] at hk
      exact (Spares.of_host hk).placeholder
    · next host i he =>
      simp [hs, he] at h

theorem spares_reestablish (p : Platform) (t : Tunnel) : t.Spares (t.reestablish p).1 := by
  unfold reestablish
  split
  · exact .refl t
  · next s hs =>
    split
    · exact .refl t
    · next r hr =>
      have hk := Host.keeps_bringUp p (t.host.create s.profile.name).1
        (t.host.create s.profile.name).2 (r.requests t.capabilities)
      dsimp only
      split
      · next host e he =>
        rw [he] at hk
        exact .of_host hk
      · next host i he =>
        rw [he] at hk
        exact .of_host hk

theorem fst_recorded (x : Tunnel × Bool) : (recorded x).1 = x.1 := rfl

theorem fst_came (x : Tunnel × Except EstablishError Nat) : (came x).1 = x.1 := by
  obtain ⟨t, _ | _⟩ := x <;> rfl

theorem snd_came_eq_up {x : Tunnel × Except EstablishError Nat} {i : Nat} :
    (came x).2 = .up i ↔ x.2 = .ok i := by
  obtain ⟨t, _ | _⟩ := x <;> simp [came]

/-- All requests of the engine but `establish` spare the tunnel. -/
theorem spares_serve {r : EngineRequest} (p : Platform) (t : Tunnel) (hr : r ≠ .establish) :
    t.Spares (t.serve p r).1 := by
  cases r with
  | establish => exact absurd rfl hr
  | addAddress address n =>
    rw [serve, fst_recorded, addAddress]
    split
    · exact .refl t
    · exact spares_record ..
  | addRoute address n =>
    rw [serve, fst_recorded, addRoute]
    split
    · exact .refl t
    · exact spares_record ..
  | addDnsServer address =>
    rw [serve, fst_recorded, addDnsServer]
    split
    · exact .refl t
    · exact spares_tell ..
  | addSearchDomain domain => exact spares_tell ..
  | setMtu n =>
    rw [serve, fst_recorded, setMtu]
    split
    · exact .refl t
    · exact spares_record ..
  | reestablish =>
    rw [serve, fst_came]
    exact spares_reestablish p t

/-- `serve` does not change the profile. -/
theorem sameProfile_serve (p : Platform) (t : Tunnel) (r : EngineRequest) :
    t.SameProfile (t.serve p r).1 := by
  by_cases hr : r = .establish
  · rw [hr, serve, fst_came]
    exact sameProfile_establish p t
  · exact (spares_serve p t hr).profile

/-- `serve` does not touch the placeholder, unless it brings up an interface for what has been
recorded. -/
theorem keepsPlaceholder_serve {r : EngineRequest}
    (h : ∀ i, r = .establish → (t.serve p r).2 ≠ .up i) : t.KeepsPlaceholder (t.serve p r).1 := by
  by_cases hr : r = .establish
  · subst hr
    rw [serve, fst_came]
    refine keepsPlaceholder_establish fun i hi => h i rfl ?_
    rw [serve, snd_came_eq_up, hi]
  · exact (spares_serve p t hr).placeholder

/-! ## What the control loop does -/

theorem setProfile_of_ok {initial : Recording} (h : Recording.start v t.owningApp = .ok initial) :
    (t.setProfile v).1.SetTo (some v) ∧ t.KeepsPlaceholder (t.setProfile v).1 ∧
      (t.setProfile v).2 = .ok () := by
  unfold setProfile
  rw [h]
  exact ⟨⟨initial, rfl, h⟩, ⟨rfl, rfl, rfl, .refl _⟩, rfl⟩

theorem setProfile_of_error {e : Net.LiteralError}
    (h : Recording.start v t.owningApp = .error e) : t.setProfile v = (t, .error e) := by
  unfold setProfile
  rw [h]

theorem keepsPlaceholder_setProfile (t : Tunnel) (v : Profile) :
    t.KeepsPlaceholder (t.setProfile v).1 := by
  cases h : Recording.start v t.owningApp with
  | ok initial => exact (setProfile_of_ok h).2.1
  | error e =>
    rw [setProfile_of_error h]
    exact (Spares.refl t).placeholder

theorem sameProfile_raisePlaceholder (p : Platform) (t : Tunnel) :
    t.SameProfile (t.raisePlaceholder p).1 := by
  unfold raisePlaceholder
  split
  · exact .refl t
  · next s hs =>
    dsimp only
    split
    · exact ⟨rfl, rfl, rfl⟩
    · next host i he =>
      have h : t.SameProfile { t with host } := ⟨rfl, rfl, rfl⟩
      have h' := h.trans (sameProfile_commit _ (Placeholder.recording s.initial))
      split <;> exact h'.trans ⟨rfl, rfl, rfl⟩

/-- An interface `x` that has just come up has no reader, so `commit` does not lower it. -/
theorem getElem?_commit {i : Nat} {x : Interface} (hx : t.host.interfaces[i]? = some x)
    (hd : x.drain? = none) (established : Recording) :
    (t.commit established).host.interfaces[i]? = some x := by
  have hlower {t' : Tunnel} (hx : t'.host.interfaces[i]? = some x) :
      t'.lowerPlaceholder.host.interfaces[i]? = some x := by
    unfold lowerPlaceholder
    split
    · exact hx
    · exact Host.getElem?_close hx hd _
  unfold commit
  split
  · exact hlower hx
  · exact hlower hx

theorem raisePlaceholder_of_up {s : Session} {host host' : Host} {i : Nat} (hs : t.session = some s)
    (hup : (t.host.create s.profile.name).1.bringUp p (t.host.create s.profile.name).2
      (Placeholder.requests s.initial t.capabilities) = (host, .ok i))
    (hdrain : ({ t with host }.commit (Placeholder.recording s.initial)).host.drainFrom p i
      (Placeholder.recording s.initial).mtu.toNat = (host', true)) :
    t.raisePlaceholder p = ({ { t with host }.commit (Placeholder.recording s.initial) with
      host := host', placeholder := some i }, .ok ()) := by
  obtain ⟨_, session, _, _, _⟩ := t
  obtain rfl : session = some s := hs
  unfold raisePlaceholder
  dsimp only
  rw [hup]
  dsimp only
  rw [hdrain]

/-- With `Platform.agreeing` a placeholder for the profile `v` that is set comes up, whatever was up
before. -/
theorem standsInFor_raisePlaceholder (h : t.SetTo (some v)) :
    ∃ reader, (t.raisePlaceholder .agreeing).1.StandsInFor v reader ∧ reader.Runs := by
  obtain ⟨initial, hset, hstart⟩ := h
  obtain ⟨s, hs, heq⟩ := Option.map_eq_some_iff.mp hset
  cases heq
  obtain ⟨host, hup, hi⟩ := Host.bringUp_agreeing t.host s.profile.name
    (Placeholder.requests s.initial t.capabilities)
  have hnew : host.interfaces[t.host.interfaces.length]? = some
      ⟨⟨s.profile.name, (Placeholder.requests s.initial t.capabilities).map Request.call⟩,
        .engine⟩ := by
    rw [hi]
    simp
  have hcommit := getElem?_commit (t := { t with host }) hnew rfl (Placeholder.recording s.initial)
  obtain ⟨host', hdrain, hx⟩ := Host.drainFrom_agreeing hcommit
    (Placeholder.recording s.initial).mtu.toNat
  have hraise := raisePlaceholder_of_up hs hup hdrain
  have hsame := sameProfile_raisePlaceholder .agreeing t
  refine ⟨.start (.stream 0 false) (Placeholder.recording s.initial).mtu.toNat,
    ⟨rfl, s.initial, t.host.interfaces.length, ?_, ?_, ?_⟩, Drain.runs_start ..⟩
  · rwa [hsame.owningApp]
  · rw [hraise]
  · rw [hsame.capabilities, hraise]
    exact hx

/-- An action `a` at a descriptor keeps the placeholder up; its reader does what it can do about it.
-/
theorem standsInFor_actAt? {host : Host} {i : Nat} {a : Drain.Action}
    (hv : t.StandsInFor v reader) (ha : a ≠ .requestStop) (hh : t.host.actAt? i a = some host) :
    ∃ reader', { t with host }.StandsInFor v reader' ∧
      (reader' = reader ∨ reader.act? a = some reader') := by
  obtain ⟨hstop, initial, j, hstart, hj, hx⟩ := hv
  obtain ⟨reader', hx', hact⟩ := Host.getElem?_actAt? hx hh
  refine ⟨reader', ⟨?_, initial, j, hstart, hj, hx'⟩, hact⟩
  rcases hact with rfl | hact
  · exact hstop
  · exact (Drain.stopRequested_act? ha hact).trans hstop

end SplitTunnel.Tunnel
