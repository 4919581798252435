import SplitTunnel.Proofs.Controller.Run

/-!
# Nothing goes past the tunnel while connections are switched (`SPEC_FULL.md` §1 and §4.5)

Between the pick of a request for a connection and the end of the old engine the loop sets the new
profile and raises a placeholder for the profile that is set then. A profile that cannot be read is
never set, so that is the last readable one that was asked for.

* `Controller.Follows`: the profile that is set is the last readable one that was picked up.
* `Controller.Guarded`: a placeholder is up, and the loop goes on to a connection.
* `Controller.switch_guarded`: a placeholder for the last readable profile comes up before anything
  is asked of the engine, and some placeholder is up until an interface for the engine replaces it
  or no connection is wanted any more.
-/

namespace SplitTunnel

/-! ## Readable profiles -/

/-- The subnets of `v` can be read. -/
def Profile.isReadable (v : Profile) : Bool := v.included.isOk && v.excluded.isOk

theorem Recording.isOk_start (v : Profile) (owningApp : String) :
    (Recording.start v owningApp).isOk = v.isReadable := by
  unfold Profile.isReadable Recording.start
  cases v.included <;> cases v.excluded <;> rfl

/-- `setProfile` sets `v` exactly if it can be read. -/
theorem Tunnel.isOk_setProfile (t : Tunnel) (v : Profile) :
    (t.setProfile v).2.isOk = v.isReadable := by
  rw [← Recording.isOk_start v t.owningApp, setProfile]
  cases Recording.start v t.owningApp <;> rfl

/-- The last profile that can be read of `targets`. -/
def lastReadable (targets : List Target) : Option Profile :=
  (targets.filterMap fun target => target.filter Profile.isReadable).getLast?

variable {targets : List Target} {q v : Profile}

theorem lastReadable_append_of_readable (targets : List Target) (h : q.isReadable = true) :
    lastReadable (targets ++ [some q]) = some q := by
  simp [lastReadable, h]

theorem lastReadable_append_of_unreadable (targets : List Target) (h : q.isReadable = false) :
    lastReadable (targets ++ [some q]) = lastReadable targets := by
  simp [lastReadable, h]

theorem lastReadable_append_none (targets : List Target) :
    lastReadable (targets ++ [none]) = lastReadable targets := by
  simp [lastReadable]

/-- To ask for `q` twice in a row changes nothing. -/
theorem lastReadable_append_last (h : targets.getLast? = some (some q)) :
    lastReadable (targets ++ [some q]) = lastReadable targets := by
  obtain ⟨before, rfl⟩ := List.getLast?_eq_some_iff.mp h
  cases hq : q.isReadable with
  | true => rw [lastReadable_append_of_readable _ hq, lastReadable_append_of_readable _ hq]
  | false => rw [lastReadable_append_of_unreadable _ hq]

theorem exists_lastReadable (hv : some v ∈ targets) (h : v.isReadable = true) :
    ∃ w, lastReadable targets = some w := by
  have hmem : v ∈ targets.filterMap fun target => target.filter Profile.isReadable :=
    List.mem_filterMap.mpr ⟨some v, hv, by simp [h]⟩
  exact Option.isSome_iff_exists.mp (List.getLast?_isSome.mpr (List.ne_nil_of_mem hmem))

theorem Tunnel.setTo_setProfile {t : Tunnel} (h : t.SetTo (lastReadable targets)) :
    (t.setProfile q).1.SetTo (lastReadable (targets ++ [some q])) := by
  have hok := Recording.isOk_start q t.owningApp
  cases hstart : Recording.start q t.owningApp with
  | ok initial =>
    rw [hstart] at hok
    rw [lastReadable_append_of_readable targets hok.symm]
    exact (setProfile_of_ok hstart).1
  | error e =>
    rw [hstart] at hok
    rw [lastReadable_append_of_unreadable targets hok.symm, setProfile_of_error hstart]
    exact h

/-- Once a profile is set, `setProfile` leaves one set. -/
theorem Tunnel.exists_setTo_setProfile {t : Tunnel} (h : t.SetTo (some v)) (q : Profile) :
    ∃ w, (t.setProfile q).1.SetTo (some w) := by
  cases hstart : Recording.start q t.owningApp with
  | ok initial => exact ⟨q, (setProfile_of_ok hstart).1⟩
  | error e =>
    rw [setProfile_of_error hstart]
    exact ⟨v, h⟩

namespace Controller

variable {p : Platform} {c c' d : Controller} {m : Move} {moves : List Move}

/-! ## Which profile is set -/

/-- By `picks`, what has been picked up: the last readable profile is set, without the request that
is being picked up, and only what was picked up last is being handled. -/
structure Follows (c : Controller) (picks : List Target) : Prop where
  blocking : c.tunnel.capabilities.blockingPlaceholder = true
  last : ∀ q, c.stage.handling? = some q → picks.getLast? = some (some q)
  set : c.tunnel.SetTo (lastReadable (if c.stage.isAdopting then picks.dropLast else picks))

theorem follows_create {config : ServiceConfig} {supported : Capabilities}
    (h : (config.capabilities.intersect supported).blockingPlaceholder = true) :
    (create config supported).Follows [] where
  blocking := h
  last q hq := by simp [create, Stage.handling?] at hq
  set := by simp [create, Tunnel.start, Tunnel.SetTo, Tunnel.setting, lastReadable]

/-- What is set in `c` if nothing is being picked up. -/
theorem Follows.setTo {picks : List Target} (h : c.Follows picks)
    (hs : c.stage.isAdopting = false) : c.tunnel.SetTo (lastReadable picks) := by
  have hset := h.set
  rwa [hs] at hset

theorem Follows.of_setTo {picks : List Target}
    (blocking : c.tunnel.capabilities.blockingPlaceholder = true)
    (last : ∀ q, c.stage.handling? = some q → picks.getLast? = some (some q))
    (hs : c.stage.isAdopting = false) (set : c.tunnel.SetTo (lastReadable picks)) :
    c.Follows picks :=
  ⟨blocking, last, by rwa [hs]⟩

theorem Follows.advance {picks : List Target} {up : Bool} (h : c.Follows picks)
    (ha : Advance p c c') : c'.Follows (picks ++ (c.taken? (.act (.advance up))).toList) := by
  have hnone (hs : c.stage ≠ .ready) :
      picks ++ (c.taken? (.act (.advance up))).toList = picks := by
    rw [taken?_eq_none hs]
    exact List.append_nil picks
  cases ha with
  | look target hs ht stage tunnel calls =>
    have hset := h.setTo (by rw [hs]; rfl)
    rw [taken?, ht]
    cases target with
    | none =>
      have hs' : c'.stage = .releasing none := stage
      refine .of_setTo (tunnel ▸ h.blocking) (by simp [hs', Stage.handling?]) (by rw [hs']; rfl) ?_
      rw [tunnel]
      simpa [lastReadable_append_none] using hset
    | some q =>
      have hs' : c'.stage = .adopting q := by rw [stage, pick, if_pos h.blocking]; rfl
      refine ⟨tunnel ▸ h.blocking, by simp [hs', Stage.handling?], ?_⟩
      rw [tunnel, hs']
      simpa [Stage.isAdopting] using hset
  | adopt q hs stage tunnel calls =>
    -- The last request has been picked up and now is set, unless it cannot be read.
    rw [hnone (by simp [hs])]
    have hlast := h.last q (by rw [hs]; rfl)
    obtain ⟨before, rfl⟩ := List.getLast?_eq_some_iff.mp hlast
    have hset := h.set
    rw [hs] at hset
    refine .of_setTo ?_ (by simp [stage, Stage.handling?]) (by rw [stage]; rfl) ?_
    · rw [tunnel, (Tunnel.keepsPlaceholder_setProfile ..).capabilities]
      exact h.blocking
    · rw [tunnel]
      exact Tunnel.setTo_setProfile (by simpa [Stage.isAdopting] using hset)
  | block q hs stage tunnel calls =>
    rw [hnone (by simp [hs])]
    have hsame := Tunnel.sameProfile_raisePlaceholder p c.tunnel
    rw [← tunnel] at hsame
    refine .of_setTo (hsame.capabilities ▸ h.blocking) ?_ (by rw [stage]; rfl)
      (hsame.setTo (h.setTo (by rw [hs]; rfl)))
    intro q' hq'
    rw [stage] at hq'
    exact h.last q' (by rw [hs]; exact hq')
  | lower hs stage tunnel =>
    rw [hnone (by simp [hs])]
    have hsame := Tunnel.sameProfile_lowerPlaceholder c.tunnel
    rw [← tunnel] at hsame
    exact .of_setTo (hsame.capabilities ▸ h.blocking) (by simp [stage, Stage.handling?])
      (by rw [stage]; rfl) (hsame.setTo (h.setTo (by rw [hs]; rfl)))
  | prepare q hs stage tunnel =>
    -- The same request is set once more, for the engine's recording.
    rw [hnone (by simp [hs])]
    have hlast := h.last q (by rw [hs]; rfl)
    have hset := Tunnel.setTo_setProfile (q := q) (h.setTo (by rw [hs]; rfl))
    rw [lastReadable_append_last hlast, ← tunnel] at hset
    refine .of_setTo ?_ ?_ ?_ hset
    · rw [tunnel, (Tunnel.keepsPlaceholder_setProfile ..).capabilities]
      exact h.blocking
    · rcases stage with hs' | hs' <;> simp [hs', Stage.handling?]
    · rcases stage with hs' | hs' <;> rw [hs'] <;> rfl
  | pass hs handling raising ending tunnel =>
    rw [hnone hs]
    refine .of_setTo (tunnel ▸ h.blocking) ?_ (Stage.isAdopting_of_isRaising raising.2) ?_
    · rw [handling]
      exact h.last
    · rw [tunnel]
      exact h.setTo (Stage.isAdopting_of_isRaising raising.1)

/-- What is set follows what is picked up with the move `m`. -/
theorem Follows.move? {picks : List Target} (h : c.Follows picks) (hm : c.move? p m = some c') :
    c'.Follows (picks ++ (c.taken? m).toList) := by
  rcases move?_cases hm with ⟨up, rfl, ha⟩ | ⟨rfl, hs, rfl⟩ | ⟨ht, ha⟩
  · exact h.advance ha
  · refine .of_setTo h.blocking (by simp [goTo, Stage.handling?]) rfl ?_
    simpa [taken?, goTo] using h.setTo (by rw [hs]; rfl)
  · rw [ht]
    refine ⟨ha.profile.capabilities ▸ h.blocking, ?_, ?_⟩
    · simpa [ha.stage] using h.last
    · simpa [ha.stage] using ha.profile.setTo h.set

/-- A request for a connection with `q` is handled by setting `q` first. -/
theorem Follows.pick {picks : List Target} (h : c.Follows picks) {q : Profile}
    (ht : c.taken? m = some (some q)) (hm : c.move? p m = some c') :
    c'.stage = .adopting q ∧ c'.calls = c.calls := by
  obtain ⟨hready, up, rfl, hpending⟩ := ready_of_taken? ht
  have ha : Advance p c c' := advance_of_advance? hm
  cases ha with
  | look target hs htarget stage tunnel calls =>
    obtain rfl : target = some q := Option.some.inj (htarget.symm.trans hpending)
    refine ⟨?_, calls⟩
    rw [stage, Controller.pick, if_pos h.blocking]
    rfl
  | adopt q' hs | block q' hs | prepare q' hs => simp [hready] at hs
  | lower hs => simp [hready] at hs
  | pass hs => exact absurd hready hs

/-! ## The placeholder that is up -/

/-- `c` has a placeholder, and will have: a profile is set, and the loop does not go on to lower the
placeholder. If descriptors work, the placeholder's reader is there. -/
structure Guarded (works : Prop) (c : Controller) : Prop where
  set : ∃ v, c.tunnel.SetTo (some v)
  goesOn : c.stage.isEnding = false
  up : ∃ w reader, c.tunnel.StandsInFor w reader ∧ (works → reader.Runs)

variable {works : Prop}

theorem Guarded.advance (h : c.Guarded works) {up : Bool}
    (ht : c.taken? (.act (.advance up)) ≠ some none) (ha : Advance .agreeing c c') :
    c'.Guarded works := by
  obtain ⟨v, hset⟩ := h.set
  obtain ⟨w, reader, hup, hruns⟩ := h.up
  have of_setProfile {q : Profile} (hs : c'.stage.isEnding = false)
      (tunnel : c'.tunnel = (c.tunnel.setProfile q).1) : c'.Guarded works := by
    refine ⟨tunnel ▸ Tunnel.exists_setTo_setProfile hset q, hs, w, reader, ?_, hruns⟩
    rw [tunnel]
    exact (Tunnel.keepsPlaceholder_setProfile c.tunnel q).standsInFor hup
  cases ha with
  | look target hs htarget stage tunnel calls =>
    refine ⟨⟨v, tunnel ▸ hset⟩, ?_, w, reader, tunnel ▸ hup, hruns⟩
    cases target with
    | none => exact absurd htarget ht
    | some q =>
      rw [stage, pick]
      split <;> rfl
  | adopt q hs stage tunnel calls => exact of_setProfile (by rw [stage]; rfl) tunnel
  | block q hs stage tunnel calls =>
    obtain ⟨reader', hup', hruns'⟩ := Tunnel.standsInFor_raisePlaceholder hset
    have hsame := Tunnel.sameProfile_raisePlaceholder .agreeing c.tunnel
    rw [← tunnel] at hup' hsame
    exact ⟨⟨v, hsame.setTo hset⟩, by rw [stage]; rfl, v, reader', hup', fun _ => hruns'⟩
  | lower hs stage tunnel =>
    have hgo := h.goesOn
    rw [hs] at hgo
    cases hgo
  | prepare q hs stage tunnel =>
    refine of_setProfile ?_ tunnel
    rcases stage with hs' | hs' <;> rw [hs'] <;> rfl
  | pass hs handling raising ending tunnel =>
    exact ⟨⟨v, tunnel ▸ hset⟩, ending.trans h.goesOn, w, reader, tunnel ▸ hup, hruns⟩

/-- One move `m` of a quiet run keeps the loop `Guarded`. -/
theorem Guarded.move? (h : c.Guarded works) (hm : c.move? .agreeing m = some c')
    (he : c.establishes .agreeing m = false) (ht : c.taken? m ≠ some none)
    (hw : works → m.isHarmless = true) : c'.Guarded works := by
  rcases move?_cases hm with ⟨up, rfl, ha⟩ | ⟨rfl, hs, rfl⟩ | ⟨-, ha⟩
  · exact h.advance ht ha
  · exact ⟨h.set, rfl, h.up⟩
  · obtain ⟨v, hset⟩ := h.set
    obtain ⟨w, reader, hup, hruns⟩ := h.up
    refine ⟨⟨v, ha.profile.setTo hset⟩, ha.stage ▸ h.goesOn, ?_⟩
    rcases ha.placeholder he with hk | ⟨i, a, host, rfl, hstop, hact, htunnel⟩
    · exact ⟨w, reader, hk.standsInFor hup, hruns⟩
    · obtain ⟨reader', hup', hr⟩ := Tunnel.standsInFor_actAt? hup hstop hact
      refine ⟨w, reader', htunnel ▸ hup', fun hworks => ?_⟩
      rcases hr with rfl | hr
      · exact hruns hworks
      · exact (hruns hworks).act? (hw hworks) hr

/-- A quiet run keeps the loop `Guarded`. -/
theorem Guarded.run? (h : c.Guarded works) (hd : c.run? .agreeing moves = some d)
    (hq : c.Quiet .agreeing moves) (hw : works → ∀ m ∈ moves, m.isHarmless = true) :
    d.Guarded works := by
  induction moves generalizing c with
  | nil =>
    cases hd
    exact h
  | cons m rest ih =>
    obtain ⟨c', hm, hrest⟩ := run?_cons.mp hd
    obtain ⟨he, ht, hquiet⟩ := hq
    have hw' : works → m.isHarmless = true := fun hworks => hw hworks m (List.mem_cons_self ..)
    exact ih (h.move? hm he ht hw') hrest (hquiet c' hm)
      fun hworks n hn => hw hworks n (List.mem_cons_of_mem m hn)

/-! ## The switch -/

/-- One move `m` between the pick of a request and the placeholder: either it still has not been
raised, or it has just come up, for the profile `v` that follows from what was picked up. -/
theorem Follows.raise {picks : List Target} {q v : Profile} (h : c.Follows picks)
    (hs : c.stage = .adopting q ∨ c.stage = .blocking q) (hv : lastReadable picks = some v)
    (hm : c.move? .agreeing m = some c') :
    c'.calls = c.calls ∧ ((c'.stage = .adopting q ∨ c'.stage = .blocking q) ∨
      c'.stage = .releasing (some q) ∧ c'.tunnel.SetTo (some v) ∧
        ∃ reader, c'.tunnel.StandsInFor v reader ∧ reader.Runs) := by
  rcases move?_cases hm with ⟨up, rfl, ha⟩ | ⟨rfl, hcreated, rfl⟩ | ⟨-, ha⟩
  · cases ha with
    | adopt q' hq' stage tunnel calls =>
      obtain rfl : q' = q := by simpa [hq'] using hs
      exact ⟨calls, .inl (.inr stage)⟩
    | block q' hq' stage tunnel calls =>
      obtain rfl : q' = q := by simpa [hq'] using hs
      have hset := h.setTo (by rw [hq']; rfl)
      rw [hv] at hset
      have hup := Tunnel.standsInFor_raisePlaceholder hset
      have hset' := (Tunnel.sameProfile_raisePlaceholder .agreeing c.tunnel).setTo hset
      rw [← tunnel] at hup hset'
      exact ⟨calls, .inr ⟨stage, hset', hup⟩⟩
    | look target hl => simp [hl] at hs
    | lower hl => simp [hl] at hs
    | prepare q' hl => simp [hl] at hs
    | pass hl handling raising ending tunnel =>
      rcases hs with hs | hs <;> simp [hs, Stage.isRaising] at raising
  · simp [hcreated] at hs
  · exact ⟨ha.calls, .inl (ha.stage ▸ hs)⟩

/-- A run from between the pick of a request and the placeholder: the placeholder still has not been
raised, or it has come up, and until then, at `e`, nothing has been asked of the engine. -/
theorem Follows.exists_raised {picks : List Target} {q v : Profile} (h : c.Follows picks)
    (hs : c.stage = .adopting q ∨ c.stage = .blocking q) (hv : lastReadable picks = some v)
    (hd : c.run? .agreeing moves = some d) :
    (d.stage = .adopting q ∨ d.stage = .blocking q) ∧ d.calls = c.calls ∨
    ∃ before after e reader, moves = before ++ after ∧ c.run? .agreeing before = some e ∧
      e.run? .agreeing after = some d ∧ e.stage = .releasing (some q) ∧ e.calls = c.calls ∧
      e.tunnel.SetTo (some v) ∧ e.tunnel.StandsInFor v reader ∧ reader.Runs := by
  induction moves generalizing c with
  | nil =>
    cases hd
    exact .inl ⟨hs, rfl⟩
  | cons m rest ih =>
    obtain ⟨c', hm, hrest⟩ := run?_cons.mp hd
    have hready : c.stage ≠ .ready := by rcases hs with hs | hs <;> simp [hs]
    have hf := h.move? hm
    rw [taken?_eq_none hready, Option.toList_none, List.append_nil] at hf
    obtain ⟨hcalls, hs' | ⟨hs', hset, reader, hup, hruns⟩⟩ := h.raise hs hv hm
    · rw [← hcalls]
      rcases ih hf hs' hrest with hl | ⟨before, after, e, reader, rfl, hbefore, he⟩
      · exact .inl hl
      · exact .inr ⟨m :: before, after, e, reader, rfl, run?_cons.mpr ⟨c', hm, hbefore⟩, he⟩
    · exact .inr ⟨[m], rest, c', reader, rfl, run?_cons.mpr ⟨c', hm, rfl⟩, hrest, hs', hcalls,
        hset, hup, hruns⟩

/-- With `Platform.agreeing`, in every run of `create config supported` from the move `m` by which a
connection with `q` is picked up: if `q` or some profile that was picked up before `isReadable`, a
placeholder for the last such profile `v` comes up (`e.tunnel.StandsInFor v reader`) before anything
is asked of the engine (`e.calls = c.calls`). If the moves `after` are `Quiet`, so that no interface
comes up for the engine and the loop does not pick up that no connection is wanted, a placeholder is
up in `d`. Its reader has not been stopped, and it is there as long as descriptors work. -/
theorem switch_guarded {config : ServiceConfig} {supported : Capabilities}
    (hblocking : (config.capabilities.intersect supported).blockingPlaceholder = true)
    {past future : List Move} {m : Move} {c d : Controller} {q : Profile}
    (hc : (create config supported).run? .agreeing past = some c) (hm : c.taken? m = some (some q))
    (hreadable : ∃ v, some v ∈ (create config supported).picked .agreeing past ++ [some q] ∧
      v.isReadable = true)
    (hd : c.run? .agreeing (m :: future) = some d) :
    (d.stage = .adopting q ∨ d.stage = .blocking q) ∧ d.calls = c.calls ∨
    ∃ before after e v reader, future = before ++ after ∧
      c.run? .agreeing (m :: before) = some e ∧ e.run? .agreeing after = some d ∧
      e.stage = .releasing (some q) ∧ e.calls = c.calls ∧
      lastReadable ((create config supported).picked .agreeing past ++ [some q]) = some v ∧
      e.tunnel.StandsInFor v reader ∧ reader.isAlive = true ∧
      (e.Quiet .agreeing after → ∃ w reader', d.tunnel.StandsInFor w reader' ∧
        ((∀ n ∈ after, n.isHarmless = true) → reader'.isAlive = true)) := by
  obtain ⟨v', hv', hr⟩ := hreadable
  obtain ⟨v, hv⟩ := exists_lastReadable hv' hr
  -- The tunnel follows what has been picked up, so the placeholder is for the last readable
  -- profile.
  have hf := run?_invariant (fun h hm => Follows.move? h hm) (follows_create hblocking) hc
  obtain ⟨c', hm', hrest⟩ := run?_cons.mp hd
  have hf' := hf.move? hm'
  rw [hm] at hf'
  obtain ⟨hs, hcalls⟩ := hf.pick hm hm'
  rcases hf'.exists_raised (.inl hs) hv hrest with ⟨hstage, hl⟩ |
    ⟨before, after, e, reader, rfl, hbefore, hafter, hstage, hl, hset, hup, hruns⟩
  · exact .inl ⟨hstage, hl.trans hcalls⟩
  · refine .inr ⟨before, after, e, v, reader, rfl, run?_cons.mpr ⟨c', hm', hbefore⟩, hafter,
      hstage, hl.trans hcalls, hv, hup, hruns.isAlive, fun hquiet => ?_⟩
    have hg : e.Guarded (∀ n ∈ after, n.isHarmless = true) :=
      ⟨⟨v, hset⟩, by rw [hstage]; rfl, v, reader, hup, fun _ => hruns⟩
    obtain ⟨w, reader', hup', hruns'⟩ := (hg.run? hafter hquiet id).up
    exact ⟨w, reader', hup', fun hall => (hruns' hall).isAlive⟩

/-- A profile that can be read. -/
def plainProfile : Profile := { name := "plain", password := some "" }

/-- A profile that cannot be read. -/
def brokenProfile : Profile := { name := "broken", includedSubnets := some "everything" }

/-- The loop does its next step, and the engine comes up if it is being brought up. -/
def Move.next : Move := .act (.advance true)

/-- The engine is up for `plainProfile`, and `brokenProfile` is asked for. -/
def untilBroken : List Move :=
  [.start, .act (.request (some plainProfile))] ++ List.replicate 10 .next ++
    [.act (.request (some brokenProfile))]

/-- After `untilBroken` the placeholder for `plainProfile` is up before the engine is taken down. -/
theorem switch_guarded_broken :
    ∃ c d before after e reader, (create {} {}).run? .agreeing untilBroken = some c ∧
      c.run? .agreeing (.next :: before) = some e ∧ e.run? .agreeing after = some d ∧
      e.calls = c.calls ∧ d.calls = c.calls ++ [.takeDown] ∧
      e.tunnel.StandsInFor plainProfile reader ∧ reader.isAlive = true := by
  obtain ⟨c, d, hc, hm, hd, hcalls⟩ : ∃ c d, (create {} {}).run? .agreeing untilBroken = some c ∧
      c.taken? .next = some (some brokenProfile) ∧
      c.run? .agreeing (.next :: List.replicate 4 .next) = some d ∧
      d.calls = c.calls ++ [.takeDown] :=
    ⟨_, _, Option.eq_some_of_isSome (by decide +kernel), by decide +kernel,
      Option.eq_some_of_isSome (by decide +kernel), by decide +kernel⟩
  have hpicked : (create {} {}).picked .agreeing untilBroken = [some plainProfile] := by
    decide +kernel
  have hlast : lastReadable [some plainProfile, some brokenProfile] = some plainProfile := by
    decide +kernel
  rcases switch_guarded rfl hc hm
      ⟨plainProfile, by simp [hpicked], by decide +kernel⟩ hd with
    ⟨-, h⟩ | ⟨before, after, e, v, reader, -, hbefore, hafter, -, he, hv, hup, halive, -⟩
  · simp [hcalls] at h
  · rw [hpicked] at hv
    obtain rfl : plainProfile = v := Option.some.inj (hlast.symm.trans hv)
    exact ⟨c, d, before, after, e, reader, hc, hbefore, hafter, he, hcalls, hup, halive⟩

end Controller

end SplitTunnel
