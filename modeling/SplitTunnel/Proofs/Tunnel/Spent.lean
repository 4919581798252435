import SplitTunnel.Proofs.Tunnel.Cases
import SplitTunnel.Proofs.Tunnel.Twins

/-!
# Builders that are spent (`SPEC_FULL.md` §4.3, a fresh builder after each interface)

A builder brings up one interface. Then the session goes on with a new one, and nothing happens at
the old one any more.

* `Host.KeepsRecords`: what happened at the builders of interfaces stays as it was.
* `Tunnel.Spent`, `Tunnel.Spent.perform`: the session's builder is none of them. Whatever is done
  to the tunnel, it is so afterwards, and they are left alone.
-/

namespace SplitTunnel

namespace Host

variable {h h' h₁ : Host} {k : Option Nat} {i : Nat}

/-- What happened in `h` at the builders of the interfaces is all that happened there in `h'`. -/
structure KeepsRecords (h h' : Host) : Prop where
  providers : h.providers <+: h'.providers
  record : ∀ i ∈ h.providers, h'.record i = h.record i

theorem KeepsRecords.trans (ha : h.KeepsRecords h₁) (hb : h₁.KeepsRecords h') :
    h.KeepsRecords h' where
  providers := ha.providers.trans hb.providers
  record i hi := (hb.record i (ha.providers.subset hi)).trans (ha.record i hi)

theorem KeepsRecords.recordOf (ha : h.KeepsRecords h') (hi : i < h.providers.length) :
    h'.recordOf i = h.recordOf i := by
  obtain ⟨rest, hrest⟩ := ha.providers
  have hsame : h'.providers[i]? = some h.providers[i] := by
    rw [← hrest, List.getElem?_append_left hi, List.getElem?_eq_getElem hi]
  rw [Host.recordOf, Host.recordOf, hsame, List.getElem?_eq_getElem hi]
  exact ha.record _ (List.getElem_mem hi)

theorem OnlyAt.keepsRecords (ha : OnlyAt k h h') (hk : ∀ i ∈ h.providers, some i ≠ k) :
    h.KeepsRecords h' := by
  obtain ⟨news, hnews, -⟩ := ha.providers
  exact ⟨⟨news, hnews.symm⟩, fun i hi => ha.record i (hk i hi)⟩

theorem keepsRecords_create (hmade : ∀ i ∈ h.providers, i < h.builders.length)
    (session : String) : h.KeepsRecords (h.create session).1 :=
  ⟨⟨[], by rw [providers_create, List.append_nil]⟩,
    fun i hi => record_create_of_ne h session (Nat.ne_of_lt (hmade i hi))⟩

end Host

namespace Tunnel

open Host (OnlyAt)

/-- The builders of the interfaces of `t` have been made, and the session's builder is another one.
-/
structure Spent (t : Tunnel) : Prop where
  numbered : t.host.Numbered
  made : ∀ i ∈ t.host.providers, i < t.host.builders.length
  session : ∀ s, t.session = some s →
    s.builder < t.host.builders.length ∧ s.builder ∉ t.host.providers

variable {p : Platform} {t t' : Tunnel} {host : Host} {s : Session} {i : Nat}

theorem spent_start (allowed supported : Capabilities) (owningApp : String) :
    (start allowed supported owningApp).Spent := by
  refine ⟨⟨fun _ _ => rfl, rfl⟩, fun i hi => absurd hi List.not_mem_nil, fun s hs => ?_⟩
  rw [start] at hs
  cases hs

theorem Spent.of_keepsBuilders (h : t.Spent) (hk : t.KeepsBuilders t') :
    t'.Spent ∧ t.host.KeepsRecords t'.host := by
  obtain ⟨news, hnews, hat⟩ := hk.host.providers
  obtain rfl : news = [] := List.eq_nil_iff_forall_not_mem.mpr fun i hi => nomatch hat i hi
  rw [List.append_nil] at hnews
  refine ⟨⟨h.numbered.of_onlyAt hk.host nofun, ?_, ?_⟩, hk.host.keepsRecords fun _ _ => nofun⟩
  · rw [hnews, hk.host.builders]
    exact h.made
  · rw [hnews, hk.host.builders, hk.session]
    exact h.session

/-- Something is asked of the builder of `s`, and no interface comes up. -/
theorem Spent.ask (h : t.Spent) (hs : t.session = some s)
    (ha : OnlyAt (some s.builder) t.host host)
    (hlen : host.interfaces.length = t.host.interfaces.length) (s' : Session)
    (hs' : s'.builder = s.builder) :
    ({ t with host, session := some s' } : Tunnel).Spent ∧ t.host.KeepsRecords host := by
  obtain ⟨hlt, hnew⟩ := h.session s hs
  have hproviders := ha.providers_eq h.numbered hlen
  refine ⟨⟨h.numbered.of_onlyAt ha fun i hi => Option.some.inj hi ▸ hlt, ?_, ?_⟩,
    ha.keepsRecords fun i hi hsame => hnew (Option.some.inj hsame ▸ hi)⟩
  · show ∀ i ∈ host.providers, i < host.builders.length
    rw [hproviders, ha.builders]
    exact h.made
  · rintro _ ⟨⟩
    show s'.builder < host.builders.length ∧ s'.builder ∉ host.providers
    rw [hproviders, ha.builders, hs']
    exact ⟨hlt, hnew⟩

/-- `bringUp` asks a builder of its own for an interface, which comes up, or not. -/
theorem Spent.bringUp_create (h : t.Spent) (p : Platform) (session : String)
    (requests : List Request) {answer : Except EstablishError Nat}
    (hup : (t.host.create session).1.bringUp p (t.host.create session).2 requests =
      (host, answer)) :
    ({ t with host } : Tunnel).Spent ∧ t.host.KeepsRecords host := by
  have ha : OnlyAt (some t.host.builders.length) (t.host.create session).1 host := by
    have ha := Host.onlyAt_bringUp p (t.host.create session).1 (t.host.create session).2 requests
    rwa [hup] at ha
  have hlength : host.builders.length = t.host.builders.length + 1 :=
    ha.builders.trans (Host.length_create t.host session)
  have hproviders := Host.providers_create t.host session
  have hmem : ∀ i ∈ host.providers, i ∈ t.host.providers ∨ i = t.host.builders.length := by
    obtain ⟨news, hnews, hat⟩ := ha.providers
    intro i hi
    rw [hnews, hproviders] at hi
    exact (List.mem_append.mp hi).imp_right fun hi => Option.some.inj (hat i hi)
  refine ⟨⟨(h.numbered.create session).of_onlyAt ha fun i hi => ?_, fun i hi => ?_, fun s hs => ?_⟩,
    (Host.keepsRecords_create h.made session).trans (ha.keepsRecords fun i hi => ?_)⟩
  · rw [Host.length_create, ← Option.some.inj hi]
    exact Nat.lt_succ_self _
  · rw [hlength]
    rcases hmem i hi with hi | rfl
    · exact Nat.lt_succ_of_lt (h.made i hi)
    · exact Nat.lt_succ_self _
  · obtain ⟨hlt, hnew⟩ := h.session s hs
    refine ⟨Nat.lt_of_lt_of_eq (Nat.lt_succ_of_lt hlt) hlength.symm, fun hi => ?_⟩
    exact (hmem _ hi).elim hnew (Nat.ne_of_lt hlt)
  · rw [hproviders] at hi
    exact fun hsame => Nat.ne_of_lt (h.made i hi) (Option.some.inj hsame)

/-- The session goes on with a new builder, as `s`. -/
theorem spent_create (hn : t.host.Numbered)
    (hmade : ∀ i ∈ t.host.providers, i < t.host.builders.length) (session : String) {s : Session}
    (hs : s.builder = (t.host.create session).2) :
    ({ t with host := (t.host.create session).1, session := some s } : Tunnel).Spent ∧
      t.host.KeepsRecords (t.host.create session).1 := by
  have hproviders := Host.providers_create t.host session
  have hlength := Host.length_create t.host session
  refine ⟨⟨hn.create session, ?_, ?_⟩, Host.keepsRecords_create hmade session⟩
  · show ∀ i ∈ (t.host.create session).1.providers, i < (t.host.create session).1.builders.length
    rw [hproviders, hlength]
    exact fun i hi => Nat.lt_succ_of_lt (hmade i hi)
  · rintro _ ⟨⟩
    show s.builder < (t.host.create session).1.builders.length ∧
      s.builder ∉ (t.host.create session).1.providers
    rw [hproviders, hlength, hs]
    exact ⟨Nat.lt_succ_self _, fun hi => Nat.lt_irrefl _ (hmade _ hi)⟩

theorem spent_commit (hn : t.host.Numbered)
    (hmade : ∀ i ∈ t.host.providers, i < t.host.builders.length)
    (hs : t.session = some s) (established : Recording) :
    (t.commit established).Spent ∧ t.host.KeepsRecords (t.commit established).host := by
  rw [commit_eq hs]
  let renewed : Session := { s with
    builder := (t.host.create s.profile.name).2, recording := s.initial
    established := some established }
  obtain ⟨hspent, hkeeps⟩ := spent_create hn hmade s.profile.name (s := renewed) rfl
  obtain ⟨hlower, hkeeps'⟩ := hspent.of_keepsBuilders (keepsBuilders_lowerPlaceholder _)
  exact ⟨hlower, hkeeps.trans hkeeps'⟩

theorem Spent.record (h : t.Spent) (f : Recording → Recording) :
    (t.record f).1.Spent ∧ t.host.KeepsRecords (t.record f).1.host := by
  rcases record_cases t f with ⟨-, he⟩ | ⟨s, hs, he⟩ <;> rw [he]
  · exact h.of_keepsBuilders (.refl t)
  · exact h.ask hs (.refl _ _) rfl _ rfl

theorem Spent.tell (h : t.Spent) (p : Platform) (c : Call) (f : Recording → Recording) :
    (t.tell p c f).1.Spent ∧ t.host.KeepsRecords (t.tell p c f).1.host := by
  rcases tell_cases p t c f with ⟨-, he⟩ | ⟨s, host, hs, hhost, hcase⟩
  · rw [he]
    exact h.of_keepsBuilders (.refl t)
  · have ha := Host.onlyAt_submit p t.host s.builder c
    have hsame := Host.interfaces_submit p t.host s.builder c
    rw [hhost] at ha hsame
    rcases hcase with ⟨cause, -, -, he⟩ | ⟨-, -, he⟩ <;> rw [he]
    · have hask := h.ask hs ha (congrArg List.length hsame) s rfl
      rwa [← hs] at hask
    · exact h.ask hs ha (congrArg List.length hsame) _ rfl

/-- `bringUp` asks the builder of `s` for an interface, which may come up. -/
theorem Spent.bringUp (h : t.Spent) (hs : t.session = some s) {requests : List Request}
    {answer : Except EstablishError Nat}
    (hup : t.host.bringUp p s.builder requests = (host, answer)) :
    host.Numbered ∧ (∀ i ∈ host.providers, i < host.builders.length) ∧
      t.host.KeepsRecords host := by
  have ha := Host.onlyAt_bringUp p t.host s.builder requests
  rw [hup] at ha
  obtain ⟨hlt, hnew⟩ := h.session s hs
  refine ⟨h.numbered.of_onlyAt ha fun i hi => Option.some.inj hi ▸ hlt, fun i hi => ?_,
    ha.keepsRecords fun i hi hsame => hnew (Option.some.inj hsame ▸ hi)⟩
  obtain ⟨news, hnews, hat⟩ := ha.providers
  rw [hnews] at hi
  rw [ha.builders]
  rcases List.mem_append.mp hi with hi | hi
  · exact h.made i hi
  · rw [Option.some.inj (hat i hi)]
    exact hlt

theorem Spent.establish (h : t.Spent) (p : Platform) :
    (t.establish p).1.Spent ∧ t.host.KeepsRecords (t.establish p).1.host := by
  rcases establish_cases p t with ⟨-, he⟩ | ⟨s, host, hs, ⟨e, hup, he⟩ | ⟨i, hup, he⟩⟩ <;> rw [he]
  · exact h.of_keepsBuilders (.refl t)
  · have ha := Host.onlyAt_bringUp p t.host s.builder (s.recording.requests t.capabilities)
    have hlen := Host.length_bringUp p t.host s.builder (s.recording.requests t.capabilities)
    rw [hup] at ha hlen
    have hask := h.ask hs ha hlen s rfl
    rwa [← hs] at hask
  · obtain ⟨hn, hmade, hkeeps⟩ := h.bringUp hs hup
    obtain ⟨hcommit, hkeeps'⟩ := spent_commit (t := { t with host }) hn hmade hs s.recording
    exact ⟨hcommit, hkeeps.trans hkeeps'⟩

theorem Spent.reestablish (h : t.Spent) (p : Platform) :
    (t.reestablish p).1.Spent ∧ t.host.KeepsRecords (t.reestablish p).1.host := by
  rcases reestablish_cases p t with ⟨e, he⟩ | ⟨s, r, host, answer, -, -, hup, he⟩ <;> rw [he]
  · exact h.of_keepsBuilders (.refl t)
  · exact h.bringUp_create p s.profile.name _ hup

theorem Spent.serve (h : t.Spent) (p : Platform) (r : EngineRequest) :
    (t.serve p r).1.Spent ∧ t.host.KeepsRecords (t.serve p r).1.host := by
  by_cases he : r = .establish
  · rw [he, Tunnel.serve, fst_came]
    exact h.establish p
  · by_cases hr : r = .reestablish
    · rw [hr, Tunnel.serve, fst_came]
      exact h.reestablish p
    · rcases serve_cases p t he hr with ⟨-, hserve⟩ | ⟨-, -, -, hserve⟩ | ⟨c, -, -, -, hserve⟩ <;>
        rw [hserve]
      · exact h.of_keepsBuilders (.refl t)
      · exact h.record _
      · exact h.tell p c _

theorem Spent.setProfile (h : t.Spent) (v : Profile) :
    (t.setProfile v).1.Spent ∧ t.host.KeepsRecords (t.setProfile v).1.host := by
  unfold Tunnel.setProfile
  cases Recording.start v t.owningApp with
  | error e => exact h.of_keepsBuilders (.refl t)
  | ok initial => exact spent_create h.numbered h.made v.name rfl

theorem Spent.raisePlaceholder (h : t.Spent) (p : Platform) :
    (t.raisePlaceholder p).1.Spent ∧ t.host.KeepsRecords (t.raisePlaceholder p).1.host := by
  rcases raisePlaceholder_cases p t with ⟨-, he⟩ |
    ⟨s, host, answer, hs, hup, ⟨e, -, he⟩ | ⟨i, t₁, host', rfl, -, -⟩⟩
  · rw [he]
    exact h.of_keepsBuilders (.refl t)
  · rw [he]
    exact h.bringUp_create p s.profile.name _ hup
  · obtain ⟨hspent, hkeeps⟩ := h.bringUp_create p s.profile.name _ hup
    obtain ⟨hcommit, hkeeps'⟩ :=
      spent_commit hspent.numbered hspent.made hs (Placeholder.recording s.initial)
    obtain ⟨hraised, hkeeps''⟩ := hcommit.of_keepsBuilders (keepsBuilders_raisePlaceholder hs hup)
    exact ⟨hraised, (hkeeps.trans hkeeps').trans hkeeps''⟩

theorem Spent.perform (h : t.Spent) (p : Platform) (o : Operation) :
    (t.perform p o).1.Spent ∧ t.host.KeepsRecords (t.perform p o).1.host := by
  cases o with
  | request r => exact h.serve p r
  | setProfile v =>
    rw [fst_perform_setProfile]
    exact h.setProfile v
  | raisePlaceholder =>
    rw [fst_perform_raisePlaceholder]
    exact h.raisePlaceholder p
  | lowerPlaceholder => exact h.of_keepsBuilders (keepsBuilders_lowerPlaceholder t)

theorem Spent.run (h : t.Spent) (steps : List (Platform × Operation)) :
    (t.run steps).Spent ∧ t.host.KeepsRecords (t.run steps).host := by
  induction steps generalizing t with
  | nil => exact h.of_keepsBuilders (.refl t)
  | cons step rest ih =>
    obtain ⟨hstep, hkeeps⟩ := h.perform step.1 step.2
    obtain ⟨hrest, hkeeps'⟩ := ih hstep
    exact ⟨hrest, hkeeps.trans hkeeps'⟩

/-- What happened at the builder of an interface that `serve` gives the engine is all that happens
there. -/
theorem Spent.answer_serve (h : t.Spent) {r : EngineRequest}
    (hk : (t.serve p r).1.host.KeepsRecords t'.host) :
    answer (t', (t.serve p r).2) = t.reply p r := by
  have hn := (h.serve p r).1.numbered.interfaces
  have hup {i : Nat} (hi : (t.serve p r).2 = .up i) :
      i < (t.serve p r).1.host.providers.length := by
    obtain ⟨built, hx⟩ := getElem?_serve_up hi
    rw [hn]
    exact (List.getElem?_eq_some_iff.mp hx).1
  rw [reply]
  rcases he : t.serve p r with ⟨t₁, outcome⟩
  rw [he] at hk hup
  cases outcome with
  | up i => exact congrArg Except.ok (hk.recordOf (hup rfl))
  | done | recorded | badProfile | notUp => rfl

end Tunnel

end SplitTunnel
