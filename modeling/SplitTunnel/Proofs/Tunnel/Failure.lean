import SplitTunnel.Proofs.Tunnel.Life

/-!
# A placeholder that does not come up (`SPEC_FULL.md` §4.3, `establish_blocking`)

A placeholder is built on a builder of its own, so that a failure leaves the session alone and the
placeholder that was up. That is so as long as its interface does not come up. If the interface is
up and nothing can be started that reads from it, the session has started again by then, and the
old placeholder has been lowered.

* `Tunnel.Untouched`: the session and the placeholder are as they were.
* `Tunnel.untouched_iff_of_raisePlaceholder`: when they are, and what is left if they are not.
-/

namespace SplitTunnel.Tunnel

variable {p : Platform} {t t' : Tunnel} {s : Session}

/-- The session of `t` is as it was, with all that its builder has taken, and so is the placeholder,
with its interface and reader. -/
structure Untouched (t t' : Tunnel) : Prop where
  session : t'.session = t.session
  builder : ∀ s, t.session = some s → t'.host.builders[s.builder]? = t.host.builders[s.builder]?
  placeholder : t'.placeholder = t.placeholder
  interface : ∀ i, t.placeholder = some i → t'.host.interfaces[i]? = t.host.interfaces[i]?

/-- The session of `t` has started again, on a new builder, as if a placeholder had come up, and
nothing is read any more. -/
structure Restarted (t t' : Tunnel) : Prop where
  session : ∃ s builder, t.session = some s ∧ t'.session = some { s with
    builder, recording := s.initial, established := some (Placeholder.recording s.initial) } ∧
      t'.host.builders[builder]? = some ⟨s.profile.name, []⟩ ∧ builder ≠ s.builder
  placeholder : t'.placeholder = none
  readers : ∀ i reader, t'.host.drain? i = some reader → reader.isAlive = false

theorem Restarted.not_untouched (h : t.Restarted t') : ¬ t.Untouched t' := by
  intro hu
  obtain ⟨s, builder, hs, hs', -, hne⟩ := h.session
  rw [hu.session, hs] at hs'
  exact hne (congrArg Session.builder (Option.some.inj hs')).symm

theorem session_lowerPlaceholder (t : Tunnel) : t.lowerPlaceholder.session = t.session := by
  unfold lowerPlaceholder
  split <;> rfl

theorem builders_lowerPlaceholder (t : Tunnel) :
    t.lowerPlaceholder.host.builders = t.host.builders := by
  unfold lowerPlaceholder
  split
  · rfl
  · exact Host.builders_close ..

/-- What another builder is asked for leaves the session and the placeholder alone, as long as its
interface does not come up. -/
theorem Lives.untouched {works : Prop} {raised : List Nat} (h : t.Lives works raised)
    {session : String} {requests : List Request} {host : Host} {answer : Except EstablishError Nat}
    (hup : (t.host.create session).1.bringUp p (t.host.create session).2 requests =
      (host, answer)) : t.Untouched { t with host } := by
  refine ⟨rfl, fun s hs => ?_, rfl, fun i hi => ?_⟩
  · obtain ⟨accepted, hb⟩ := h.exists_builder hs
    have hkeeps := Host.getElem?_bringUp_create hb p session requests
    rw [hup] at hkeeps
    exact hkeeps.trans hb.symm
  · obtain ⟨reader, hd, -⟩ := h.kept.attended i hi
    obtain ⟨x, hx, -⟩ := Host.exists_getElem?_of_drain? hd
    have hkeeps := Host.keeps_bringUp p (t.host.create session).1 (t.host.create session).2 requests
    rw [hup] at hkeeps
    exact (hkeeps.getElem? hx).trans hx.symm

/-- `commit` starts the session `s` again on a builder that was not there. -/
theorem session_commit (hs : t.session = some s) {b : Builder}
    (hb : t.host.builders[s.builder]? = some b) (established : Recording) :
    ∃ builder, (t.commit established).session = some { s with
      builder, recording := s.initial, established := some established } ∧
      (t.commit established).host.builders[builder]? = some ⟨s.profile.name, []⟩ ∧
      builder ≠ s.builder := by
  rw [commit_eq hs, session_lowerPlaceholder, builders_lowerPlaceholder]
  exact ⟨_, rfl, t.host.getElem?_create_self _, (Host.getElem?_create hb _).2⟩

/-- The placeholder's interface is up, but `drainFrom` starts nothing that reads from it. -/
theorem Lives.restarted {works : Prop} {raised : List Nat} (h : t.Lives works raised)
    (hs : t.session = some s) {requests : List Request} {host host' : Host} {i mtu : Nat}
    {t₁ : Tunnel}
    (hup : (t.host.create s.profile.name).1.bringUp p (t.host.create s.profile.name).2 requests =
      (host, .ok i))
    (hcommit : ({ t with host } : Tunnel).commit (Placeholder.recording s.initial) = t₁)
    (hdrain : t₁.host.drainFrom p i mtu = (host', false))
    (hkept : ({ t₁ with host := host' } : Tunnel).Kept works) :
    t.Restarted { t₁ with host := host' } := by
  have hnone : t₁.placeholder = none := hcommit ▸ placeholder_commit _ _
  obtain ⟨accepted, hb⟩ := h.exists_builder hs
  have hb' := Host.getElem?_bringUp_create hb p s.profile.name requests
  rw [hup] at hb'
  obtain ⟨builder, hsession, hbuilder, hne⟩ := session_commit (t := { t with host }) hs hb'
    (Placeholder.recording s.initial)
  rw [hcommit] at hsession hbuilder
  have hbuilders := Host.builders_drainFrom p t₁.host i mtu
  rw [hdrain] at hbuilders
  exact ⟨⟨s, builder, hs, hsession, hbuilders ▸ hbuilder, hne⟩, hnone,
    fun j reader hreader => hkept.isAlive_eq_false hnone hreader⟩

/-- `raisePlaceholder` fails in one of two ways: before its interface has come up, and then nothing
is touched, or because nothing can be started that reads from it, and then the session has started
again and the old placeholder has been lowered. -/
theorem Lives.untouched_or_restarted {works : Prop} {raised : List Nat} (h : t.Lives works raised)
    {e : EstablishError} (hfail : t.raisePlaceholder p = (t', .error e)) :
    (e ≠ .drainFailed ∧ t.hasNew t' = false ∧ t.Untouched t') ∨
      (e = .drainFailed ∧ t.hasNew t' = true ∧ t.Restarted t') := by
  have hkept : (t.raisePlaceholder p).1.Kept works := h.kept.raisePlaceholder p fun _ => id
  rcases raisePlaceholder_cases p t with ⟨hs, he⟩ | ⟨s, host, answer, hs, hup, hcases⟩
  · cases he.symm.trans hfail
    exact .inl ⟨nofun, hasNew_of_length_eq rfl, rfl, fun _ _ => rfl, rfl, fun _ _ => rfl⟩
  rcases hcases with ⟨e', rfl, he⟩ | ⟨i, t₁, host', rfl, hcommit, ⟨-, he⟩ | ⟨hdrain, he⟩⟩ <;>
    cases he.symm.trans hfail
  · have hne := Host.bringUp_ne_drainFailed p (t.host.create s.profile.name).1
      (t.host.create s.profile.name).2 (Placeholder.requests s.initial t.capabilities)
    rw [hup] at hne
    exact .inl ⟨fun heq => hne (congrArg Except.error heq), hasNew_of_bringUp_error hup rfl,
      h.untouched hup⟩
  · have hlength := lt_length_of_commit hup hcommit hdrain
    have hnew : t.hasNew { t₁ with host := host' } = true := hasNew_of_lt hlength
    rw [he] at hkept
    exact .inr ⟨rfl, hnew, h.restarted hs hup hcommit hdrain hkept⟩

/-- Whatever has happened to a tunnel, and whatever the platform does: a `raisePlaceholder` that
fails leaves the session and the placeholder untouched exactly if its interface has not come up.
That is so unless the answer is that nothing could be started that reads from it. Then the session
has started again, and no placeholder is up. -/
theorem untouched_iff_of_raisePlaceholder {allowed supported : Capabilities} {owningApp : String}
    {past : List Occurrence} {e : EstablishError}
    (hfail : ((start allowed supported owningApp).live past).raisePlaceholder p =
      (t', .error e)) :
    let t := (start allowed supported owningApp).live past
    (t.Untouched t' ↔ e ≠ .drainFailed) ∧ (e = .drainFailed ↔ t.hasNew t' = true) ∧
      (e = .drainFailed → t.Restarted t') := by
  intro t
  have hlives := lives_live allowed supported owningApp past
  rcases hlives.untouched_or_restarted hfail with ⟨hne, hnew, hsame⟩ | ⟨heq, hnew, hrestarted⟩
  · exact ⟨iff_of_true hsame hne, iff_of_false hne (by simp [t, hnew]), fun heq => absurd heq hne⟩
  · exact ⟨iff_of_false hrestarted.not_untouched (not_not_intro heq), iff_of_true heq hnew,
      fun _ => hrestarted⟩

/-- A placeholder is up, and the engine has been assigned an address. -/
def blockedAndRecording : List Occurrence :=
  blocked ++ [.descriptor 0 (.write 3),
    .operation .agreeing (.request (.addAddress "10.10.0.2" 32))]

/-- After `blockedAndRecording` a second placeholder that is declined leaves the first one, and the
address. -/
theorem untouched_of_declined :
    let t := (start {} {} "owner").live blockedAndRecording
    t.placeholder = some 0 ∧ (t.raisePlaceholder declining).2 = .error .declined ∧
      t.Untouched (t.raisePlaceholder declining).1 := by
  intro t
  have hfail : t.raisePlaceholder declining =
      ((t.raisePlaceholder declining).1, .error .declined) := Prod.ext rfl (by decide +kernel)
  refine ⟨by decide +kernel, by decide +kernel, ?_⟩
  exact (untouched_iff_of_raisePlaceholder hfail).1.mpr nofun

/-- A platform that takes everything and starts no reader. -/
def unreadable : Platform := { Platform.agreeing with startsDrain := fun _ => false }

/-- After `blockedAndRecording` a second placeholder that is `unreadable` takes the first one and
the address with it. -/
theorem touched_of_unreadable :
    let t := (start {} {} "owner").live blockedAndRecording
    let t' := (t.raisePlaceholder unreadable).1
    (t.raisePlaceholder unreadable).2 = .error .drainFailed ∧
      (∃ s, t.session = some s ∧ s.recording.addresses ≠ []) ∧
      (∃ s, t'.session = some s ∧ s.recording.addresses = []) ∧
      (∃ x, t.host.interfaces[0]? = some x ∧ t.placeholder = some 0 ∧ x.isOpen = true) ∧
      ∃ x, t'.host.interfaces[0]? = some x ∧ t'.placeholder = none ∧ x.isOpen = false :=
  ⟨by decide +kernel, ⟨_, Option.eq_some_of_isSome (by decide +kernel), by decide +kernel⟩,
    ⟨_, Option.eq_some_of_isSome (by decide +kernel), by decide +kernel⟩,
    ⟨_, Option.eq_some_of_isSome (by decide +kernel), by decide +kernel, by decide +kernel⟩,
    ⟨_, Option.eq_some_of_isSome (by decide +kernel), by decide +kernel, by decide +kernel⟩⟩

end SplitTunnel.Tunnel
