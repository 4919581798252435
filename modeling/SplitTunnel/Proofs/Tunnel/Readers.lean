import SplitTunnel.Proofs.Tunnel.Cases

/-!
# Who reads a placeholder (`SPEC_FULL.md` §4.4, one drain for the one placeholder)

* `Tunnel.Kept`: the placeholder has a reader that nobody has asked to stop, and no other interface
  has one that is still there. Every operation keeps that.
* `Tunnel.Kept.raisePlaceholder`, `Tunnel.Kept.lowerPlaceholder`, `Tunnel.Kept.serve`,
  `Tunnel.Kept.actAt?`: one lemma per operation, and one for what happens at a descriptor.
* `Tunnel.placeholder_establish`, `Tunnel.isSome_placeholder_raisePlaceholder`: whether there is a
  placeholder then.
-/

namespace SplitTunnel.Tunnel

variable {p : Platform} {t t' : Tunnel} {works : Prop}

/-- The placeholder of `t` is read by a reader that nobody has asked to stop. It is there as long as
descriptors work. The other readers have exited. -/
structure Kept (works : Prop) (t : Tunnel) : Prop where
  attended : ∀ i, t.placeholder = some i → ∃ reader, t.host.drain? i = some reader ∧
    reader.stopRequested = false ∧ (works → reader.Runs)
  alone : ∀ i reader, t.host.drain? i = some reader → reader.isAlive = true →
    t.placeholder = some i
  rests : ∀ i reader, t.host.drain? i = some reader → reader.Rests

/-- The same interfaces of `t` and `t'` have readers, and the same one is the placeholder. -/
structure SameReaders (t t' : Tunnel) : Prop where
  placeholder : t'.placeholder = t.placeholder
  drain : ∀ i, t'.host.drain? i = t.host.drain? i

theorem SameReaders.refl (t : Tunnel) : t.SameReaders t := ⟨rfl, fun _ => rfl⟩

theorem SameReaders.kept (h : t.SameReaders t') (hk : t.Kept works) : t'.Kept works := by
  refine ⟨fun i hi => ?_, fun i reader hd halive => ?_, fun i reader hd => ?_⟩
  · rw [h.drain]
    exact hk.attended i (h.placeholder ▸ hi)
  · rw [h.placeholder]
    exact hk.alone i reader (h.drain i ▸ hd) halive
  · exact hk.rests i reader (h.drain i ▸ hd)

theorem kept_start (allowed supported : Capabilities) (owningApp : String) :
    (start allowed supported owningApp).Kept works := by
  refine ⟨fun i hi => ?_, fun i reader hd => ?_, fun i reader hd => ?_⟩
  · cases hi
  · cases hd
  · cases hd

/-! ## Lowering -/

theorem placeholder_lowerPlaceholder (t : Tunnel) : t.lowerPlaceholder.placeholder = none := by
  unfold lowerPlaceholder
  split
  · assumption
  · rfl

theorem drain?_lowerPlaceholder (t : Tunnel) (i : Nat) :
    t.lowerPlaceholder.host.drain? i =
      if t.placeholder = some i then (t.host.drain? i).map Drain.stop else t.host.drain? i := by
  unfold lowerPlaceholder
  split
  · next hnone => rw [hnone, if_neg nofun]
  · next j hj =>
    rw [hj, Host.drain?_close]
    by_cases hji : j = i
    · rw [if_pos hji, if_pos (congrArg some hji)]
    · rw [if_neg hji, if_neg fun h => hji (Option.some.inj h)]

/-- After `lowerPlaceholder` nobody reads any more: the placeholder's reader waits or has exited, so
it has exited once it has been stopped. -/
theorem Kept.lowerPlaceholder (h : t.Kept works) : t.lowerPlaceholder.Kept works := by
  have hnone := placeholder_lowerPlaceholder t
  refine ⟨fun i hi => ?_, fun i reader hd halive => ?_, fun i reader hd => ?_⟩
  · rw [hnone] at hi
    cases hi
  · rw [drain?_lowerPlaceholder] at hd
    split at hd
    · obtain ⟨reader, hreader, rfl⟩ := Option.map_eq_some_iff.mp hd
      rw [(h.rests i reader hreader).isAlive_stop] at halive
      cases halive
    · next hi => exact absurd (h.alone i reader hd halive) hi
  · rw [drain?_lowerPlaceholder] at hd
    split at hd
    · obtain ⟨reader, hreader, rfl⟩ := Option.map_eq_some_iff.mp hd
      exact (h.rests i reader hreader).stop
    · exact h.rests i reader hd

theorem Kept.isAlive_eq_false (h : t.Kept works) (hnone : t.placeholder = none) {i : Nat}
    {reader : Drain} (hd : t.host.drain? i = some reader) : reader.isAlive = false := by
  by_contra halive
  have hi := h.alone i reader hd (Bool.not_eq_false _ ▸ halive)
  rw [hnone] at hi
  cases hi

/-- Without a placeholder it does not matter what descriptors do. -/
theorem Kept.of_none {works' : Prop} (h : t.Kept works) (hnone : t.placeholder = none) :
    t.Kept works' := by
  refine ⟨fun i hi => ?_, h.alone, h.rests⟩
  rw [hnone] at hi
  cases hi

theorem Kept.mono {works' : Prop} (hw : works' → works) (h : t.Kept works) : t.Kept works' := by
  refine ⟨fun i hi => ?_, h.alone, h.rests⟩
  obtain ⟨reader, hd, hstop, hruns⟩ := h.attended i hi
  exact ⟨reader, hd, hstop, fun hworks => hruns (hw hworks)⟩

theorem placeholder_commit (t : Tunnel) (established : Recording) :
    (t.commit established).placeholder = none := by
  unfold commit
  split <;> exact placeholder_lowerPlaceholder _

theorem Kept.commit (h : t.Kept works) (established : Recording) :
    (t.commit established).Kept works := by
  unfold Tunnel.commit
  split
  · exact h.lowerPlaceholder
  · refine Kept.lowerPlaceholder (SameReaders.kept (t := t) ?_ h)
    exact ⟨rfl, fun _ => rfl⟩

/-! ## What the engine asks for -/

theorem sameReaders_record (t : Tunnel) (f : Recording → Recording) :
    t.SameReaders (t.record f).1 := by
  rcases record_cases t f with ⟨-, he⟩ | ⟨s, -, he⟩ <;> rw [he] <;> exact ⟨rfl, fun _ => rfl⟩

theorem sameReaders_tell (p : Platform) (t : Tunnel) (c : Call) (f : Recording → Recording) :
    t.SameReaders (t.tell p c f).1 := by
  rcases tell_cases p t c f with ⟨-, he⟩ | ⟨s, host, -, hhost, hcases⟩
  · rw [he]
    exact .refl t
  have hi : host.interfaces = t.host.interfaces := hhost ▸ Host.interfaces_submit p t.host _ c
  rcases hcases with ⟨cause, -, -, he⟩ | ⟨-, -, he⟩ <;> rw [he] <;>
    exact ⟨rfl, fun i => Host.drain?_congr hi i⟩

/-- What `bringUp` brings up, or not, has no reader. -/
theorem sameReaders_of_bringUp {h₀ host : Host} {j : Nat} {requests : List Request}
    {answer : Except EstablishError Nat} (hinterfaces : h₀.interfaces = t.host.interfaces)
    (hup : h₀.bringUp p j requests = (host, answer)) : t.SameReaders { t with host } := by
  refine ⟨rfl, fun i => ?_⟩
  have hd := Host.drain?_bringUp p h₀ j requests i
  rw [hup, Host.drain?_congr hinterfaces] at hd
  exact hd

theorem sameReaders_reestablish (p : Platform) (t : Tunnel) :
    t.SameReaders (t.reestablish p).1 := by
  rcases reestablish_cases p t with ⟨e, he⟩ | ⟨s, r, host, answer, -, -, hup, he⟩ <;> rw [he]
  · exact .refl t
  · exact sameReaders_of_bringUp (by rfl) hup

theorem sameReaders_serve {r : EngineRequest} (p : Platform) (t : Tunnel) (hr : r ≠ .establish) :
    t.SameReaders (t.serve p r).1 := by
  by_cases hre : r = .reestablish
  · rw [hre, serve, fst_came]
    exact sameReaders_reestablish p t
  rcases serve_cases p t hr hre with ⟨-, he⟩ | ⟨-, -, -, he⟩ | ⟨c, -, -, -, he⟩ <;> rw [he]
  · exact .refl t
  · exact sameReaders_record t _
  · exact sameReaders_tell p t c _

theorem Kept.establish (h : t.Kept works) (p : Platform) : (t.establish p).1.Kept works := by
  rcases establish_cases p t with ⟨-, he⟩ | ⟨s, host, -, ⟨e, hup, he⟩ | ⟨i, hup, he⟩⟩ <;> rw [he]
  · exact h
  · exact (sameReaders_of_bringUp rfl hup).kept h
  · exact ((sameReaders_of_bringUp rfl hup).kept h).commit _

/-- `establish` ends the placeholder if the interface comes up. -/
theorem placeholder_establish (p : Platform) (t : Tunnel) :
    (t.establish p).1.placeholder = if (t.establish p).2.isOk then none else t.placeholder := by
  rcases establish_cases p t with ⟨-, he⟩ | ⟨s, host, -, ⟨e, -, he⟩ | ⟨i, -, he⟩⟩ <;> rw [he]
  · rfl
  · rfl
  · exact placeholder_commit _ _

theorem Kept.serve (h : t.Kept works) (p : Platform) (r : EngineRequest) :
    (t.serve p r).1.Kept works := by
  by_cases hr : r = .establish
  · rw [hr, Tunnel.serve, fst_came]
    exact h.establish p
  · exact (sameReaders_serve p t hr).kept h

/-! ## What the control loop does -/

theorem Kept.setProfile (h : t.Kept works) (v : Profile) : (t.setProfile v).1.Kept works := by
  cases hstart : Recording.start v t.owningApp with
  | ok initial =>
    unfold Tunnel.setProfile
    rw [hstart]
    exact SameReaders.kept (t := t) ⟨rfl, fun _ => rfl⟩ h
  | error e =>
    rw [setProfile_of_error hstart]
    exact h

/-- `drainFrom` gives the interface `i` a reader while there is no placeholder. -/
theorem Kept.drainFrom (h : t.Kept works) (hnone : t.placeholder = none) {i mtu : Nat}
    {x : Interface} {host : Host} (hx : t.host.interfaces[i]? = some x)
    (hdrain : t.host.drainFrom p i mtu = (host, true)) :
    ({ t with host, placeholder := some i } : Tunnel).Kept works := by
  have hself : host.drain? i = some (.start (.stream 0 false) mtu) := by
    have hself := Host.drain?_drainFrom hx p mtu
    rwa [hdrain, if_pos rfl] at hself
  have hother {j : Nat} (hij : i ≠ j) : host.drain? j = t.host.drain? j := by
    have hother := Host.drain?_drainFrom_of_ne hij p t.host mtu
    rwa [hdrain] at hother
  refine ⟨fun j hj => ?_, fun j reader hd halive => ?_, fun j reader hd => ?_⟩
  · obtain rfl : i = j := Option.some.inj hj
    exact ⟨_, hself, rfl, fun _ => Drain.runs_start 0 mtu⟩
  · by_cases hij : i = j
    · exact congrArg some hij
    · rw [h.isAlive_eq_false hnone ((hother hij).symm.trans hd)] at halive
      cases halive
  · by_cases hij : i = j
    · subst hij
      obtain rfl : _ = reader := Option.some.inj (hself.symm.trans hd)
      exact Drain.rests_start _ mtu
    · exact h.rests j reader ((hother hij).symm.trans hd)

/-- An interface whose reader `drainFrom` cannot start had no reader before either. -/
theorem sameReaders_drainFrom {i mtu : Nat} {built : Builder} {host : Host}
    (hx : t.host.interfaces[i]? = some ⟨built, .engine⟩)
    (hdrain : t.host.drainFrom p i mtu = (host, false)) : t.SameReaders { t with host } := by
  refine ⟨rfl, fun j => ?_⟩
  by_cases hij : i = j
  · subst hij
    have hself := Host.drain?_drainFrom hx p mtu
    rw [hdrain, if_neg Bool.false_ne_true] at hself
    rw [hself, Host.drain?, hx]
    rfl
  · have hother := Host.drain?_drainFrom_of_ne hij p t.host mtu
    rwa [hdrain] at hother

/-- A placeholder that `raisePlaceholder` brings up has a new reader, whatever became of the one
before. -/
theorem Kept.raisePlaceholder {works' : Prop} (h : t.Kept works) (p : Platform)
    (hw : (t.raisePlaceholder p).2 ≠ .ok () → works' → works) :
    (t.raisePlaceholder p).1.Kept works' := by
  rcases raisePlaceholder_cases p t with ⟨-, he⟩ | ⟨s, host, answer, -, hup, hcases⟩
  · rw [he] at hw ⊢
    exact h.mono (hw nofun)
  have hsame : t.SameReaders { t with host } := sameReaders_of_bringUp (by rfl) hup
  rcases hcases with ⟨e, rfl, he⟩ | ⟨i, t₁, host', rfl, hcommit, hdrained⟩
  · rw [he] at hw ⊢
    exact hsame.kept (h.mono (hw nofun))
  have hnone : t₁.placeholder = none := hcommit ▸ placeholder_commit _ _
  have hkept : t₁.Kept works' := (hcommit ▸ (hsame.kept h).commit _ : t₁.Kept works).of_none hnone
  obtain ⟨built, hx⟩ := Host.getElem?_bringUp hup
  have hx' : t₁.host.interfaces[i]? = some ⟨built, .engine⟩ :=
    hcommit ▸ getElem?_commit (t := { t with host }) hx rfl _
  rcases hdrained with ⟨hdrain, he⟩ | ⟨hdrain, he⟩ <;> rw [he]
  · exact hkept.drainFrom hnone hx' hdrain
  · exact (sameReaders_drainFrom hx' hdrain).kept hkept

/-- After `raisePlaceholder` there is a placeholder if that is the answer, and none if only its
reader is missing. What goes wrong earlier leaves the old one. -/
theorem isSome_placeholder_raisePlaceholder (p : Platform) (t : Tunnel) :
    (t.raisePlaceholder p).1.placeholder.isSome = match (t.raisePlaceholder p).2 with
      | .ok () => true
      | .error .drainFailed => false
      | .error _ => t.placeholder.isSome := by
  rcases raisePlaceholder_cases p t with ⟨-, he⟩ | ⟨s, host, answer, -, hup, hcases⟩
  · rw [he]
  rcases hcases with ⟨e, rfl, he⟩ | ⟨i, t₁, host', rfl, hcommit, hdrained⟩
  · rw [he]
    have hne := Host.bringUp_ne_drainFailed p (t.host.create s.profile.name).1
      (t.host.create s.profile.name).2 (Placeholder.requests s.initial t.capabilities)
    rw [hup] at hne
    cases e with
    | drainFailed => exact absurd rfl hne
    | noProfile | nothingEstablished | routeRejected | configurationRejected | declined => rfl
  have hnone : t₁.placeholder = none := hcommit ▸ placeholder_commit _ _
  rcases hdrained with ⟨-, he⟩ | ⟨-, he⟩ <;> rw [he]
  · rfl
  · rw [hnone]
    rfl

/-- An action `a` at a descriptor, other than a request to stop, leaves the placeholder with a
reader. A reader that has exited does nothing any more. -/
theorem Kept.actAt? (h : t.Kept works) {host : Host} {i : Nat} {a : Drain.Action}
    (ha : a ≠ .requestStop) (hw : works → a.isTraffic = true)
    (hh : t.host.actAt? i a = some host) : ({ t with host } : Tunnel).Kept works := by
  have hd (j : Nat) := Host.drain?_actAt? hh j
  obtain ⟨after, hafter, -⟩ := Option.map_eq_some_iff.mp hh
  obtain ⟨before, hbefore, hact⟩ := Option.bind_eq_some_iff.mp hafter
  have hself : host.drain? i = some after := by rw [hd, if_pos rfl, hafter]
  have hother {j : Nat} (hij : i ≠ j) : host.drain? j = t.host.drain? j := by
    rw [hd, if_neg hij]
  refine ⟨fun j hj => ?_, fun j reader hreader halive => ?_, fun j reader hreader => ?_⟩
  · obtain ⟨reader, hreader, hstop, hruns⟩ := h.attended j hj
    by_cases hij : i = j
    · subst hij
      obtain rfl : before = reader := Option.some.inj (hbefore.symm.trans hreader)
      refine ⟨after, hself, ?_, fun hworks => (hruns hworks).act? (hw hworks) hact⟩
      rw [Drain.stopRequested_act? ha hact, hstop]
    · exact ⟨reader, (hother hij).trans hreader, hstop, hruns⟩
  · by_cases hij : i = j
    · subst hij
      exact h.alone i before hbefore (Drain.isAlive_of_act? ha hact)
    · exact h.alone j reader ((hother hij).symm.trans hreader) halive
  · by_cases hij : i = j
    · subst hij
      obtain rfl : after = reader := Option.some.inj (hself.symm.trans hreader)
      exact (h.rests i before hbefore).act? hact
    · exact h.rests j reader ((hother hij).symm.trans hreader)

end SplitTunnel.Tunnel
