import SplitTunnel.Proofs.Tunnel.Life

/-!
# How a placeholder is replaced (`SPEC_FULL.md` §4.3, at most one placeholder)

The descriptor of a placeholder is open for as long as it stands in for the next interface, and it
is closed when another interface has come up.

* `Lives.placeholder_of_isOpen`, `Lives.isOpen_placeholder`: of all placeholders that ever came up,
  the one that is up has its descriptor open.
* `Tunnel.ReplacedIn`: another interface comes up, and then the placeholder is lowered.
  `Tunnel.up_before_closed` is that nothing else takes a placeholder away.
* `Tunnel.NoneUp`: no placeholder is up. `Tunnel.noneUp_iff_of_serve` says when that is so right
  after the engine has got an interface.
-/

namespace SplitTunnel.Tunnel

variable {p : Platform} {t t' : Tunnel} {s : Session} {works : Prop} {raised : List Nat} {i : Nat}

/-! ## Whose descriptor is open -/

/-- Of the placeholders `raised` only the one that is up has its descriptor open. -/
theorem Lives.placeholder_of_isOpen (h : t.Lives works raised) (hi : i ∈ raised) {x : Interface}
    (hx : t.host.interfaces[i]? = some x) (hopen : x.isOpen = true) : t.placeholder = some i := by
  obtain ⟨y, hy, hdrain⟩ := Host.exists_getElem?_of_isDrained ((h.drained i).mpr hi)
  obtain rfl : x = y := Option.some.inj (hx.symm.trans hy)
  obtain ⟨reader, hreader, halive⟩ := Interface.exists_drain hdrain hopen
  exact h.kept.alone i reader (Option.bind_eq_some_iff.mpr ⟨x, hx, hreader⟩) halive

/-- The placeholder `i` that is up is one of those that came up, and its descriptor is open as long
as descriptors work. -/
theorem Lives.isOpen_placeholder (h : t.Lives works raised) (hi : t.placeholder = some i) :
    i ∈ raised ∧ ∃ x, t.host.interfaces[i]? = some x ∧ (works → x.isOpen = true) := by
  obtain ⟨reader, hd, -, hruns⟩ := h.kept.attended i hi
  obtain ⟨x, hx, hreader⟩ := Host.exists_getElem?_of_drain? hd
  refine ⟨(h.drained i).mp (Host.isDrained_of_drain? hd), x, hx, fun hworks => ?_⟩
  rw [x.isOpen_eq_isAlive hreader]
  exact (hruns hworks).isAlive

/-! ## What comes first -/

/-- From `t` to `t'` another interface comes up, and only then the placeholder `i` is closed. -/
structure ReplacedIn (i : Nat) (t t' : Tunnel) : Prop where
  up : t.hasNew t' = true
  lowered : t'.placeholder ≠ some i
  order : ∃ before builder after,
    t'.host.events = t.host.events ++ before ++ .established builder .up :: after ∧
      .closed i ∉ before ∧ .closed i ∈ after

theorem Kept.events_lowerPlaceholder (h : t.Kept works) (hi : t.placeholder = some i) :
    t.lowerPlaceholder.host.events = t.host.events ++ [.closed i] := by
  obtain ⟨reader, hd, -⟩ := h.attended i hi
  simp only [Tunnel.lowerPlaceholder, hi, Host.close, hd]
  rfl

/-- `commit` makes a new builder for the session `s`, and then the placeholder `i` is closed. -/
theorem Kept.events_commit (h : t.Kept works) (hs : t.session = some s)
    (hi : t.placeholder = some i) (established : Recording) :
    ∃ builder, (t.commit established).host.events =
      t.host.events ++ [.created builder s.profile.name, .closed i] := by
  have hkept : ({ t with
      host := (t.host.create s.profile.name).1
      session := some { s with
        builder := (t.host.create s.profile.name).2, recording := s.initial
        established := some established } } : Tunnel).Kept works :=
    SameReaders.kept (t := t) ⟨rfl, fun _ => rfl⟩ h
  rw [commit_eq hs, hkept.events_lowerPlaceholder hi]
  exact ⟨_, List.append_assoc ..⟩

theorem events_drainFrom (p : Platform) (host : Host) (i mtu : Nat) :
    ∃ e, (host.drainFrom p i mtu).1.events = host.events ++ [e] := by
  unfold Host.drainFrom
  split <;> exact ⟨_, rfl⟩

/-- What a builder is `told` closes nothing. -/
theorem closed_notMem_of_called {told : List Event} {j : Nat} {requests : List Request}
    (hcalled : ∀ e ∈ told, ∃ r ∈ requests, ∃ answer, e = .called j r.call answer) :
    .closed i ∉ told := by
  intro hclosed
  obtain ⟨r, -, answer, heq⟩ := hcalled _ hclosed
  cases heq

/-- An interface has come up, and `commit` starts everything again: the placeholder `i` is closed
after that. -/
theorem Kept.replacedIn_commit (h : t.Kept works) (hs : t.session = some s)
    (hi : t.placeholder = some i) {before host : Host} {j k : Nat} {b : Builder}
    {requests : List Request} {created : List Event} (hb : before.builders[j]? = some b)
    (hinterfaces : before.interfaces = t.host.interfaces)
    (hcreated : before.events = t.host.events ++ created) (hopen : .closed i ∉ created)
    (hup : before.bringUp p j requests = (host, .ok k)) (established : Recording) :
    t.ReplacedIn i ({ t with host }.commit established) := by
  have hkept : ({ t with host } : Tunnel).Kept works :=
    (sameReaders_of_bringUp hinterfaces hup).kept h
  have hlt := lt_length_of_bringUp hup hinterfaces established
  obtain ⟨told, htold, hcalled, -⟩ := Host.bringUp_of_ok hb hup
  obtain ⟨builder, hcommit⟩ := hkept.events_commit hs hi established
  refine ⟨hasNew_of_lt hlt, by rw [placeholder_commit]; nofun, created ++ told, j,
    [.created builder s.profile.name, .closed i], ?_, ?_, by simp⟩
  · rw [hcommit, htold.events, hcreated]
    simp
  · rw [List.mem_append, not_or]
    exact ⟨hopen, closed_notMem_of_called hcalled⟩

/-- `serve` replaces the placeholder `i` or leaves it alone. -/
theorem Lives.replacedIn_serve (h : t.Lives works raised) (hi : t.placeholder = some i)
    (p : Platform) (r : EngineRequest) :
    t.KeepsPlaceholder (t.serve p r).1 ∨ r = .establish ∧ t.ReplacedIn i (t.serve p r).1 := by
  by_cases hr : r = .establish
  · subst hr
    rw [serve, fst_came]
    rcases establish_cases p t with ⟨-, he⟩ | ⟨s, host, hs, ⟨e, -, he⟩ | ⟨j, hup, he⟩⟩
    · exact .inl (keepsPlaceholder_establish fun k hk => by simp [he] at hk)
    · exact .inl (keepsPlaceholder_establish fun k hk => by simp [he] at hk)
    · obtain ⟨accepted, hb⟩ := h.exists_builder hs
      rw [he]
      exact .inr ⟨rfl, h.kept.replacedIn_commit hs hi hb rfl (List.append_nil _).symm
        List.not_mem_nil hup _⟩
  · exact .inl (spares_serve p t hr).placeholder

/-- An event `e` that follows when the placeholder `i` has been replaced may give its successor a
reader. -/
theorem ReplacedIn.followedBy (h : t.ReplacedIn i t') {t'' : Tunnel} {e : Event}
    (hlength : t''.host.interfaces.length = t'.host.interfaces.length)
    (hevents : t''.host.events = t'.host.events ++ [e]) (hlowered : t''.placeholder ≠ some i) :
    t.ReplacedIn i t'' := by
  obtain ⟨before, builder, after, horder, hbefore, hafter⟩ := h.order
  refine ⟨?_, hlowered, before, builder, after ++ [e], ?_, hbefore,
    List.mem_append_left _ hafter⟩
  · rw [← h.up, hasNew, hlength, hasNew]
  · rw [hevents, horder]
    simp

/-- `raisePlaceholder` replaces the placeholder `i` that is up, or leaves it alone if its interface
does not come up. -/
theorem Lives.replacedIn_raisePlaceholder (h : t.Lives works raised) (hi : t.placeholder = some i)
    (p : Platform) :
    t.KeepsPlaceholder (t.raisePlaceholder p).1 ∨ t.ReplacedIn i (t.raisePlaceholder p).1 := by
  rcases raisePlaceholder_cases p t with ⟨-, he⟩ | ⟨s, host, answer, hs, hup, hcases⟩
  · rw [he]
    exact .inl (Spares.refl t).placeholder
  rcases hcases with ⟨e, -, he⟩ | ⟨j, t₁, host', rfl, hcommit, hdrained⟩
  · have hkeeps := Host.keeps_bringUp p (t.host.create s.profile.name).1
      (t.host.create s.profile.name).2 (Placeholder.requests s.initial t.capabilities)
    rw [hup] at hkeeps
    rw [he]
    exact .inl (Spares.of_host hkeeps).placeholder
  right
  have hnew := t.host.getElem?_create_self s.profile.name
  have hreplaced : t.ReplacedIn i t₁ := hcommit ▸
    h.kept.replacedIn_commit hs hi hnew rfl rfl (by simp) hup _
  -- The new interface is not the old placeholder's, so a reader for it does not bring that back.
  have hne : j ≠ i := by
    obtain ⟨told, -, -, -, hj, -⟩ := Host.bringUp_of_ok hnew hup
    obtain ⟨-, x, hx, -⟩ := h.isOpen_placeholder hi
    exact Nat.ne_of_gt (hj ▸ (List.getElem?_eq_some_iff.mp hx).1)
  obtain ⟨e, hevents⟩ := events_drainFrom p t₁.host j (Placeholder.recording s.initial).mtu.toNat
  have hlength := Host.length_drainFrom p t₁.host j (Placeholder.recording s.initial).mtu.toNat
  rcases hdrained with ⟨hdrain, he⟩ | ⟨hdrain, he⟩ <;> rw [he] <;> rw [hdrain] at hevents hlength
  · exact hreplaced.followedBy hlength hevents fun hj => hne (Option.some.inj hj)
  · exact hreplaced.followedBy hlength hevents hreplaced.lowered

/-- Whatever `past` has happened to a tunnel, and whatever the platform does: of all placeholders in
`raised`, at most the one that is up has its descriptor open, and it is open unless something made
it useless. An operation `o` other than `lowerPlaceholder` leaves the placeholder `i` up as it is,
or `ReplacedIn i`: another interface has come up by the time that `i` is closed. That can be an
interface of `establish` or another placeholder. Giving up the tunnel is `lowerPlaceholder`. -/
theorem up_before_closed (allowed supported : Capabilities) (owningApp : String)
    (past : List Occurrence) :
    let first := start allowed supported owningApp
    let t := first.live past
    (∀ i ∈ first.raised past, ∀ x, t.host.interfaces[i]? = some x → x.isOpen = true →
      t.placeholder = some i) ∧
    ∀ i, t.placeholder = some i →
      (i ∈ first.raised past ∧ ∃ x, t.host.interfaces[i]? = some x ∧
        ((∀ y ∈ past, y.isHarmless = true) → x.isOpen = true)) ∧
      ∀ p o, t.KeepsPlaceholder (t.perform p o).1 ∨ o = .lowerPlaceholder ∨
        (o = .request .establish ∨ o = .raisePlaceholder) ∧ t.ReplacedIn i (t.perform p o).1 := by
  intro first t
  have h := lives_live allowed supported owningApp past
  refine ⟨fun i hi x => h.placeholder_of_isOpen hi, fun i hi => ⟨h.isOpen_placeholder hi, ?_⟩⟩
  intro p o
  cases o with
  | request r =>
    rcases h.replacedIn_serve hi p r with hkeeps | ⟨rfl, hreplaced⟩
    · exact .inl hkeeps
    · exact .inr (.inr ⟨.inl rfl, hreplaced⟩)
  | setProfile v =>
    rw [fst_perform_setProfile]
    exact .inl (keepsPlaceholder_setProfile t v)
  | raisePlaceholder =>
    rw [fst_perform_raisePlaceholder]
    exact (h.replacedIn_raisePlaceholder hi p).imp_right fun hreplaced => .inr ⟨.inr rfl, hreplaced⟩
  | lowerPlaceholder => exact .inr (.inl rfl)

/-- After `blocked` a second placeholder replaces the first one. -/
theorem replacedIn_of_second :
    let t := (start {} {} "owner").live blocked
    t.placeholder = some 0 ∧ t.ReplacedIn 0 (t.perform .agreeing .raisePlaceholder).1 := by
  intro t
  have hi : t.placeholder = some 0 := by decide +kernel
  have hlater : (t.perform .agreeing .raisePlaceholder).1.placeholder = some 1 := by decide +kernel
  refine ⟨hi, ?_⟩
  rcases ((up_before_closed {} {} "owner" blocked).2 0 hi).2 .agreeing .raisePlaceholder with
    hkeeps | heq | ⟨-, hreplaced⟩
  · cases hlater.symm.trans (hkeeps.placeholder.trans hi)
  · cases heq
  · exact hreplaced

/-! ## Beside an interface of the engine -/

/-- No placeholder of `t` is up, and the descriptors of those that were are closed. -/
structure NoneUp (raised : List Nat) (t : Tunnel) : Prop where
  placeholder : t.placeholder = none
  closed : ∀ i ∈ raised, ∀ x, t.host.interfaces[i]? = some x → x.isOpen = false

theorem Lives.noneUp_iff (h : t.Lives works raised) :
    t.NoneUp raised ↔ t.placeholder = none := by
  refine ⟨NoneUp.placeholder, fun hnone => ⟨hnone, fun i hi x hx => ?_⟩⟩
  by_contra hopen
  have hplaceholder := h.placeholder_of_isOpen hi hx (Bool.not_eq_false _ ▸ hopen)
  rw [hnone] at hplaceholder
  cases hplaceholder

theorem Lives.serve (h : t.Lives works raised) (p : Platform) (r : EngineRequest) :
    (t.serve p r).1.Lives works raised := by
  have hoccur := h.occur (x := .operation p (.request r)) fun _ => rfl
  simpa [raises?, Tunnel.occur, perform] using hoccur

/-- Whatever `past` has happened to a tunnel, and whatever the platform `p` does: when `serve` gives
the engine the interface `j`, `NoneUp` holds, no placeholder is up beside it, exactly if `r` is
`establish` or no placeholder was up before. With `reestablish` the interface that was established
last comes up once more beside the placeholder, which it leaves as it is. -/
theorem noneUp_iff_of_serve {allowed supported : Capabilities} {owningApp : String}
    {past : List Occurrence} {r : EngineRequest} {j : Nat}
    (hup : (((start allowed supported owningApp).live past).serve p r).2 = .up j) :
    let first := start allowed supported owningApp
    let t := first.live past
    let t' := (t.serve p r).1
    (∃ built, t'.host.interfaces[j]? = some ⟨built, .engine⟩) ∧
      (t'.NoneUp (first.raised past) ↔ r = .establish ∨ t.placeholder = none) ∧
      (r ≠ .establish → t.KeepsPlaceholder t') := by
  intro first t t'
  have h := lives_live allowed supported owningApp past
  refine ⟨getElem?_serve_up hup, ?_, fun hr => (spares_serve p t hr).placeholder⟩
  rw [(h.serve p r).noneUp_iff]
  -- Of what the engine asks for, only `establish` commits and lowers the placeholder.
  by_cases hr : r = .establish
  · subst hr
    refine iff_of_true ?_ (.inl rfl)
    have hok : (t.establish p).2 = .ok j := snd_came_eq_up.mp hup
    rw [serve, fst_came, placeholder_establish, hok]
    rfl
  · rw [(spares_serve p t hr).placeholder.placeholder]
    exact ⟨.inr, fun hor => hor.resolve_left hr⟩

/-- After `blocked` the interface of `establish` is alone. -/
theorem noneUp_of_establish :
    let first := start {} {} "owner"
    let t := first.live blocked
    t.placeholder = some 0 ∧ (t.serve .agreeing .establish).2 = .up 1 ∧
      (t.serve .agreeing .establish).1.NoneUp (first.raised blocked) := by
  intro first t
  have hup : (t.serve .agreeing .establish).2 = .up 1 := by decide +kernel
  exact ⟨by decide +kernel, hup, (noneUp_iff_of_serve hup).2.1.mpr (.inl rfl)⟩

/-- After `blocked` the interface of `reestablish` comes up beside a placeholder whose descriptor is
open. -/
theorem placeholder_beside_reestablish :
    let t := (start {} {} "owner").live blocked
    let t' := (t.serve .agreeing .reestablish).1
    (t.serve .agreeing .reestablish).2 = .up 1 ∧ t'.placeholder = some 0 ∧
      ∃ x, t'.host.interfaces[0]? = some x ∧ x.isOpen = true :=
  ⟨by decide +kernel, by decide +kernel, _, Option.eq_some_of_isSome (by decide +kernel),
    by decide +kernel⟩

end SplitTunnel.Tunnel
