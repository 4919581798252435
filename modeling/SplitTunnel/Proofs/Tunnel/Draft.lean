import SplitTunnel.Proofs.Platform.Builders
import SplitTunnel.Proofs.Policy.Growth
import SplitTunnel.Proofs.Tunnel.Account

/-!
# What an interface is made of (`SPEC_FULL.md` §4.3, `establish`)

DNS servers and search domains are put on a session's builder as they become known, and everything
else when its interface is asked for. If that fails, the builder is kept for the next time, with
what it has taken by then.

* `Draft`, `Draft.note`, `Tunnel.draft`: what has been put on the session's builder, by operations
  and what came of them.
* `Session.DraftedAs`: the builder holds a draft, and what failures have left there fits in the
  recording.
* `Tunnel.DraftedAs.perform`: an operation keeps the two together.
* `Tunnel.established_carries`: what an interface carries.
-/

namespace SplitTunnel

open Net

/-- The call says how names are looked up. -/
def Call.isNaming : Call → Bool
  | addDnsServer _ | addSearchDomain _ => true
  | _ => false

/-- What has been put on the session's builder. -/
structure Draft where
  /-- The DNS servers and search domains that it has taken, in order. -/
  named : List Call := []
  /-- What it has taken for interfaces that did not come up, in order. -/
  left : List Call := []

/-- `d` after an operation, by its `Outcome` and the `news` from the platform. -/
def Draft.note (d : Draft) (cameUp : Bool) (news : List Event) : Operation → Outcome → Draft
  | .setProfile _, .done => {}
  | .raisePlaceholder, _ => if cameUp then {} else d
  | .request .establish, .up _ => {}
  | .request .establish, .notUp _ => { d with left := d.left ++ news.filterMap Event.taken? }
  | .request r, .recorded true => { d with named := d.named ++ r.call?.toList }
  | _, _ => d

namespace Tunnel

/-- What has happened on the platform from `t` to `t'`. -/
def news (t t' : Tunnel) : List Event := t'.host.events.drop t.host.events.length

/-- `d` after operations on `t`, as `run` does them. -/
def draft (t : Tunnel) (d : Draft) : List (Platform × Operation) → Draft
  | [] => d
  | (p, o) :: rest =>
    let (t', outcome) := t.perform p o
    t'.draft (d.note (t.hasNew t') (t.news t') o outcome) rest

end Tunnel

/-! ## Requests -/

/-- A recording's `requests` do not say how names are looked up. -/
theorem Recording.isNaming_requests {r : Recording} {c : Capabilities} {request : Request}
    (h : request ∈ r.requests c) : request.call.isNaming = false := by
  have hserver := r.dnsServer?_requests c request h
  cases request <;> first | rfl | cases hserver

theorem EngineRequest.grows_note (r : EngineRequest) (recording : Recording) :
    recording.Grows (r.note recording) := by
  unfold note
  cases r.fact? with
  | none => exact .refl recording
  | some fact => exact recording.grows_learn fact

/-- A call `c` that is told to the session's builder at once says how names are looked up. -/
theorem EngineRequest.isNaming_of_call? {r : EngineRequest} {c : Call} (h : r.call? = some c) :
    c.isNaming = true := by
  cases r <;> simp only [call?] at h <;> try cases h
  · obtain ⟨a, -, rfl⟩ := Option.map_eq_some_iff.mp h
    rfl
  · rfl

theorem Draft.note_recorded (d : Draft) (cameUp : Bool) (news : List Event) (r : EngineRequest)
    (ok : Bool) : d.note cameUp news (.request r) (.recorded ok) =
      if ok then { d with named := d.named ++ r.call?.toList } else d := by
  cases r <;> cases ok <;> rfl

/-! ## Sessions and drafts -/

/-- The builder of `s` holds the draft `d`. What failures have left there sends no traffic where the
recording does not send it. -/
structure Session.DraftedAs (s : Session) (h : Host) (d : Draft) : Prop where
  built : ∃ accepted, h.builders[s.builder]? = some ⟨s.profile.name, accepted⟩ ∧
    accepted.filter Call.isNaming = d.named ∧ accepted.filter (!Call.isNaming ·) = d.left
  initial : s.initial.splitTunneling = s.profile.splitTunneling
  limits : Recording.SameLimits s.initial s.recording
  fits : ∀ c ∈ d.left, c.FitsIn s.recording

section Session

variable {s : Session} {h h' : Host} {d : Draft}

theorem Session.DraftedAs.of_builder (hs : s.DraftedAs h d)
    (hb : ∀ b, h.builders[s.builder]? = some b → h'.builders[s.builder]? = some b) :
    s.DraftedAs h' d := by
  obtain ⟨accepted, hbuilt, hnamed, hleft⟩ := hs.built
  exact ⟨⟨accepted, hb _ hbuilt, hnamed, hleft⟩, hs.initial, hs.limits, hs.fits⟩

/-- The builder of `s` has been told `news`, and what it has taken of it fits in the recording. -/
theorem Session.DraftedAs.told (hs : s.DraftedAs h d) {news : List Event}
    (ht : Host.Told s.builder h h' news)
    (hfits : ∀ c ∈ news.filterMap Event.taken?, c.FitsIn s.recording) :
    s.DraftedAs h' ⟨d.named ++ (news.filterMap Event.taken?).filter Call.isNaming,
      d.left ++ (news.filterMap Event.taken?).filter (!Call.isNaming ·)⟩ := by
  obtain ⟨accepted, hbuilt, hnamed, hleft⟩ := hs.built
  refine ⟨⟨_, ht.getElem?_self hbuilt, ?_, ?_⟩, hs.initial, hs.limits, fun c hc => ?_⟩
  · rw [List.filter_append, hnamed]
  · rw [List.filter_append, hleft]
  · rcases List.mem_append.mp hc with hc | hc
    · exact hs.fits c hc
    · exact hfits c (List.mem_filter.mp hc).1

/-- A request `r` has been granted: the recording knows more. -/
theorem Session.DraftedAs.note (hs : s.DraftedAs h d) (r : EngineRequest) :
    Session.DraftedAs { s with recording := r.note s.recording } h d := by
  have hgrows := r.grows_note s.recording
  exact ⟨hs.built, hs.initial, hs.limits.trans hgrows.limits,
    fun c hc => (hs.fits c hc).grow hgrows⟩

/-- A builder that is new and a recording that has just started hold the empty draft. -/
theorem Session.draftedAs_start (h : Host)
    (hi : s.initial.splitTunneling = s.profile.splitTunneling) (established : Option Recording) :
    Session.DraftedAs { s with
      builder := (h.create s.profile.name).2, recording := s.initial, established }
      (h.create s.profile.name).1 {} :=
  ⟨⟨[], h.getElem?_create_self _, rfl, rfl⟩, hi, .refl _, nofun⟩

end Session

namespace Tunnel

variable {p : Platform} {t t' : Tunnel} {d : Draft}

/-- The session's builder, if `t` has a session, holds the draft `d`. -/
def DraftedAs (t : Tunnel) (d : Draft) : Prop := ∀ s, t.session = some s → s.DraftedAs t.host d

theorem DraftedAs.of_none (h : t.session = none) : t.DraftedAs d := by
  intro s hs
  rw [h] at hs
  cases hs

theorem DraftedAs.lowerPlaceholder (h : t.DraftedAs d) : t.lowerPlaceholder.DraftedAs d := by
  unfold Tunnel.lowerPlaceholder
  split
  · exact h
  · next i hi =>
    exact fun s hs => (h s hs).of_builder fun b hb => by rw [Host.builders_close]; exact hb

theorem draftedAs_setProfile {v : Profile} {initial : Recording}
    (hstart : Recording.start v t.owningApp = .ok initial) :
    (t.setProfile v).1.DraftedAs {} := by
  unfold setProfile
  rw [hstart]
  intro s hs
  cases hs
  exact ⟨⟨[], t.host.getElem?_create_self v.name, rfl, rfl⟩, Recording.splitTunneling_start hstart,
    .refl _, nofun⟩

/-- After `commit` the recording starts again, on a new builder. -/
theorem DraftedAs.commit (h : t.DraftedAs d) (established : Recording) :
    (t.commit established).DraftedAs {} := by
  cases hs : t.session with
  | none =>
    refine .of_none ?_
    have hsame := sameProfile_commit t established
    simpa [setting, hs] using hsame.setting
  | some s =>
    rw [commit_eq hs]
    refine DraftedAs.lowerPlaceholder fun s' hs' => ?_
    cases hs'
    exact Session.draftedAs_start t.host (h s hs).initial _

/-- What is done with another builder is of no account. -/
theorem DraftedAs.of_bringUp_create (h : t.DraftedAs d) {host : Host} {session : String}
    {requests : List Request} {answer : Except EstablishError Nat}
    (hup : (t.host.create session).1.bringUp p (t.host.create session).2 requests =
      (host, answer)) : ({ t with host } : Tunnel).DraftedAs d := by
  refine fun s hs => (h s hs).of_builder fun b hb => ?_
  have hkeeps := Host.getElem?_bringUp_create hb p session requests
  rwa [hup] at hkeeps

/-! ### One operation -/

theorem DraftedAs.record (h : t.DraftedAs d) {r : EngineRequest} (hcall : r.call? = none)
    (cameUp : Bool) (news : List Event) :
    (recorded (t.record r.note)).1.DraftedAs
      (d.note cameUp news (.request r) (recorded (t.record r.note)).2) := by
  rcases record_cases t r.note with ⟨hs, he⟩ | ⟨s, hs, he⟩ <;> rw [he] <;> dsimp only [recorded] <;>
    rw [Draft.note_recorded]
  · exact .of_none hs
  · intro s' hs'
    cases hs'
    simpa [hcall] using (h s hs).note r

theorem DraftedAs.tell (h : t.DraftedAs d) {r : EngineRequest} {c : Call} (hcall : r.call? = some c)
    (cameUp : Bool) (news : List Event) :
    (recorded (t.tell p c r.note)).1.DraftedAs
      (d.note cameUp news (.request r) (recorded (t.tell p c r.note)).2) := by
  have hnaming := EngineRequest.isNaming_of_call? hcall
  rcases tell_cases p t c r.note with
    ⟨hs, he⟩ | ⟨s, host, hs, rfl, ⟨cause, -, hanswer, he⟩ | ⟨-, hanswer, he⟩⟩ <;>
    rw [he] <;> dsimp only [recorded] <;> rw [Draft.note_recorded]
  · exact .of_none hs
  · have htold := Host.told_submit p t.host s.builder c
    rw [hanswer] at htold
    intro s' hs'
    obtain rfl : s = s' := Option.some.inj (hs.symm.trans hs')
    simpa [List.filterMap_cons] using (h s hs).told htold nofun
  · have htold := Host.told_submit p t.host s.builder c
    rw [hanswer] at htold
    have hfits : c.FitsIn s.recording := by
      cases c <;> trivial
    intro s' hs'
    cases hs'
    have hdraft := ((h s hs).told htold (by simpa using hfits)).note r
    simpa [hnaming, hcall] using hdraft

/-- When `bringUp` asks the session's builder for an interface, the builder keeps what it has taken
until then. -/
theorem DraftedAs.ask (h : t.DraftedAs d) {s : Session} (hs : t.session = some s) {host : Host}
    {answer : Except EstablishError Nat}
    (hup : t.host.bringUp p s.builder (s.recording.requests t.capabilities) = (host, answer)) :
    ({ t with host } : Tunnel).DraftedAs
      { d with left := d.left ++ (t.news { t with host }).filterMap Event.taken? } := by
  obtain ⟨news, htold, hcalls⟩ := Host.told_bringUp p t.host s.builder
    (s.recording.requests t.capabilities)
  rw [hup] at htold
  have hnews : t.news { t with host } = news := by
    rw [Tunnel.news, htold.events, List.drop_left]
  have hnaming : ∀ c ∈ news.filterMap Event.taken?, c.isNaming = false := by
    intro c hc
    obtain ⟨r, hr, rfl⟩ := hcalls c hc
    exact Recording.isNaming_requests hr
  have hdraft := (h s hs).told htold fun c hc => by
    obtain ⟨r, hr, rfl⟩ := hcalls c hc
    exact Recording.fitsIn_requests hr
  rw [List.filter_eq_nil_iff.mpr (by simpa using hnaming), List.append_nil,
    List.filter_eq_self.mpr (by simpa using hnaming)] at hdraft
  intro s' hs'
  obtain rfl : s = s' := Option.some.inj (hs.symm.trans hs')
  rw [hnews]
  exact hdraft

theorem DraftedAs.serve (h : t.DraftedAs d) (p : Platform) (r : EngineRequest) (cameUp : Bool) :
    (t.serve p r).1.DraftedAs
      (d.note cameUp (t.news (t.serve p r).1) (.request r) (t.serve p r).2) := by
  by_cases hestablish : r = .establish
  · subst hestablish
    rcases establish_cases p t with ⟨hs, he⟩ | ⟨s, host, hs, ⟨e, hup, he⟩ | ⟨i, hup, he⟩⟩ <;>
      rw [Tunnel.serve, he]
    · exact .of_none hs
    · exact h.ask hs hup
    · exact (h.ask hs hup).commit _
  by_cases hreestablish : r = .reestablish
  · subst hreestablish
    rcases reestablish_cases p t with ⟨e, he⟩ | ⟨s, r, host, answer, -, -, hup, he⟩ <;>
      rw [Tunnel.serve, he]
    · exact h
    · cases answer <;> exact h.of_bringUp_create hup
  rcases serve_cases p t hestablish hreestablish with
    ⟨-, he⟩ | ⟨-, hcall, -, he⟩ | ⟨c, -, hcall, -, he⟩ <;> rw [he]
  · rw [Draft.note_recorded, if_neg Bool.false_ne_true]
    exact h
  · exact h.record hcall _ _
  · exact h.tell hcall _ _

theorem DraftedAs.raisePlaceholder (h : t.DraftedAs d) (p : Platform) :
    (t.raisePlaceholder p).1.DraftedAs
      (if t.hasNew (t.raisePlaceholder p).1 then {} else d) := by
  rcases raisePlaceholder_cases p t with ⟨hs, he⟩ | ⟨s, host, answer, hs, hup, hcases⟩
  · rw [he]
    exact .of_none hs
  have hhost : ({ t with host } : Tunnel).DraftedAs d := h.of_bringUp_create hup
  rcases hcases with ⟨e, rfl, he⟩ | ⟨i, t₁, host', rfl, hcommit, hdrained⟩
  · rw [he, hasNew_of_bringUp_error hup rfl]
    exact hhost
  have hdraft : t₁.DraftedAs {} := hcommit ▸ hhost.commit _
  have hbuilders := Host.builders_drainFrom p t₁.host i
    (Placeholder.recording s.initial).mtu.toNat
  rcases hdrained with ⟨hdrain, he⟩ | ⟨hdrain, he⟩
  all_goals
    rw [hdrain] at hbuilders
    rw [he, hasNew_of_lt (lt_length_of_commit hup hcommit hdrain), if_pos rfl]
    exact fun s' hs' => (hdraft s' hs').of_builder fun b hb => hbuilders ▸ hb

/-- `perform` and what came of it lead from one draft to the next. -/
theorem DraftedAs.perform (h : t.DraftedAs d) (p : Platform) (o : Operation) :
    (t.perform p o).1.DraftedAs
      (d.note (t.hasNew (t.perform p o).1) (t.news (t.perform p o).1) o (t.perform p o).2) := by
  cases o with
  | request r => exact h.serve p r _
  | setProfile v =>
    cases hstart : Recording.start v t.owningApp with
    | ok initial =>
      obtain ⟨-, -, hok⟩ := setProfile_of_ok hstart
      have hset := draftedAs_setProfile hstart
      rcases he : t.setProfile v with ⟨t', e | _⟩
      · rw [he] at hok
        cases hok
      · simp only [Tunnel.perform, he]
        rw [he] at hset
        exact hset
    | error e =>
      simp only [Tunnel.perform, setProfile_of_error hstart]
      exact h
  | raisePlaceholder =>
    have hraise := h.raisePlaceholder p
    rcases he : t.raisePlaceholder p with ⟨t', e | _⟩ <;> simp only [Tunnel.perform, he] <;>
      rw [he] at hraise <;> exact hraise
  | lowerPlaceholder => exact h.lowerPlaceholder

/-- `run` leads from one draft to another. -/
theorem DraftedAs.run (h : t.DraftedAs d) (steps : List (Platform × Operation)) :
    (t.run steps).DraftedAs (t.draft d steps) := by
  induction steps generalizing t d with
  | nil => exact h
  | cons step rest ih =>
    obtain ⟨p, o⟩ := step
    exact ih (h.perform p o)

/-! ## Interfaces -/

/-- In every run an interface `i` that comes up for what has been recorded carries what its builder
took of the recording, once and after all else. The rest is the DNS servers and search domains that
the builder took before, and what earlier attempts have left on it; so it carries nothing but the
recording exactly if they left nothing. In any case no route leads where the recording does not
lead, and no family may go past the tunnel that the profile blocks. A family that has been seen may
only if an earlier attempt left that. -/
theorem established_carries {allowed supported : Capabilities} {owningApp : String}
    {steps : List (Platform × Operation)} {p : Platform} {t' : Tunnel} {i : Nat}
    (hup : ((start allowed supported owningApp).run steps).establish p = (t', .ok i)) :
    let t := (start allowed supported owningApp).run steps
    let d := (start allowed supported owningApp).draft {} steps
    ∃ s built before calls, t.session = some s ∧
      t'.host.interfaces[i]? = some ⟨built, .engine⟩ ∧ built.session = s.profile.name ∧
      built.accepted = before ++ calls ∧
      Request.Granted (s.recording.requests t.capabilities) calls ∧
      before.filter Call.isNaming = d.named ∧ before.filter (!Call.isNaming ·) = d.left ∧
      (built.accepted = d.named ++ calls ↔ d.left = []) ∧
      s.recording.splitTunneling = s.profile.splitTunneling ∧
      (∀ c ∈ built.accepted, c.FitsIn s.recording) ∧
      ∀ f, s.recording.seen f = true →
        (.allowFamily f ∈ built.accepted ↔ .allowFamily f ∈ d.left) := by
  intro t d
  rcases establish_cases p t with ⟨-, he⟩ | ⟨s, host, hs, ⟨e, -, he⟩ | ⟨i', hbring, he⟩⟩ <;>
    obtain ⟨rfl, hanswer⟩ := Prod.mk.inj (he.symm.trans hup) <;> cases hanswer
  have hdraft : t.DraftedAs d := DraftedAs.run (.of_none rfl) steps
  obtain ⟨⟨before, hbuilder, hnamed, hleft⟩, hinitial, hlimits, hfits⟩ := hdraft s hs
  obtain ⟨told, -, -, hgranted, hi, hinterfaces⟩ := Host.bringUp_of_ok hbuilder hbring
  have hnew : host.interfaces[i]? =
      some ⟨⟨s.profile.name, before ++ told.filterMap Event.taken?⟩, .engine⟩ := by
    rw [hinterfaces, hi]
    exact List.getElem?_concat_length
  refine ⟨s, _, before, _, hs, getElem?_commit (t := { t with host }) hnew rfl _, rfl, rfl,
    hgranted, hnamed, hleft, ?_, ?_, fun c hc => ?_, fun f hf => ?_⟩
  · rw [List.append_cancel_right_eq, ← hnamed, ← hleft, eq_comm, List.filter_eq_self,
      List.filter_eq_nil_iff]
    simp
  · rw [hlimits.splitTunneling, hinitial]
  · rcases List.mem_append.mp hc with hc | hc
    · cases hname : c.isNaming with
      | true => cases c <;> trivial
      | false => exact hfits c (hleft ▸ List.mem_filter.mpr ⟨hc, by simp [hname]⟩)
    · obtain ⟨r, hr, rfl⟩ := hgranted.mem hc
      exact Recording.fitsIn_requests hr
  · rw [← hleft, List.mem_filter, List.mem_append]
    refine ⟨fun hc => ?_, fun hc => .inl hc.1⟩
    -- The requests of a recording let only families past that have not been seen.
    refine hc.elim (fun hc => ⟨hc, rfl⟩) fun hc => ?_
    obtain ⟨r, hr, hcall⟩ := hgranted.mem hc
    rw [Recording.seen_of_mem_requests hr hcall.symm] at hf
    cases hf

/-- A platform that takes all calls and brings no interface up. -/
def declining : Platform := { Platform.agreeing with establish := fun _ _ => .declined }

/-- An interface is declined, and then a placeholder comes up, and with it a new builder. -/
def declinedBeforePlaceholder : List (Platform × Operation) :=
  [(.agreeing, .setProfile {}), (declining, .request .establish), (.agreeing, .raisePlaceholder),
    (.agreeing, .request (.addDnsServer "10.10.0.1")),
    (.agreeing, .request (.addRoute "10.0.0.0" 8))]

/-- After `declinedBeforePlaceholder` the attempt has left nothing on the new builder. -/
theorem established_carries_replaced :
    let t := (start {} {} "owner").run declinedBeforePlaceholder
    ∃ s built calls, t.session = some s ∧
      (t.establish .agreeing).1.host.interfaces[1]? = some ⟨built, .engine⟩ ∧
      Request.Granted (s.recording.requests t.capabilities) calls ∧
      built.accepted = .addDnsServer ⟨.ipv4, 0x0A0A0001, by decide⟩ :: calls := by
  intro t
  have hup : t.establish .agreeing = ((t.establish .agreeing).1, .ok 1) :=
    Prod.ext rfl (by decide +kernel)
  obtain ⟨s, built, before, calls, hs, hbuilt, -, -, hgranted, -, -, hiff, -⟩ :=
    established_carries hup
  have hleft : ((start {} {} "owner").draft {} declinedBeforePlaceholder).left = [] := by
    decide +kernel
  have hnamed : ((start {} {} "owner").draft {} declinedBeforePlaceholder).named =
      [.addDnsServer ⟨.ipv4, 0x0A0A0001, by decide⟩] := by decide +kernel
  refine ⟨s, built, calls, hs, hbuilt, hgranted, ?_⟩
  rw [hiff.mpr hleft, hnamed]
  rfl

/-- An interface is declined before the gateway has assigned an address. -/
def declinedBeforeAddress : List (Platform × Operation) :=
  [(.agreeing, .setProfile {}), (declining, .request .establish),
    (.agreeing, .request (.addAddress "10.10.0.2" 32))]

/-- When the interface comes up after `declinedBeforeAddress`, its builder still lets the address's
family past the tunnel: it has not only taken what was recorded. -/
theorem established_carries_leftover :
    let t := (start {} {} "owner").run declinedBeforeAddress
    ∃ s built, t.session = some s ∧ (t.establish .agreeing).2 = .ok 0 ∧
      (t.establish .agreeing).1.host.interfaces[0]? = some ⟨built, .engine⟩ ∧
      s.recording.seen .ipv4 = true ∧ .allowFamily .ipv4 ∈ built.accepted ∧
      ∀ calls, Request.Granted (s.recording.requests t.capabilities) calls →
        built.accepted ≠ ((start {} {} "owner").draft {} declinedBeforeAddress).named ++ calls := by
  intro t
  obtain ⟨s, hs, hseen⟩ : ∃ s, t.session = some s ∧ s.recording.seen .ipv4 = true :=
    ⟨_, Option.eq_some_of_isSome (by decide +kernel), by decide +kernel⟩
  obtain ⟨x, hx, hallows⟩ : ∃ x, (t.establish .agreeing).1.host.interfaces[0]? = some x ∧
      x.holder = .engine ∧ .allowFamily .ipv4 ∈ x.built.accepted :=
    ⟨_, Option.eq_some_of_isSome (by decide +kernel), by decide +kernel, by decide +kernel⟩
  obtain ⟨built, holder⟩ := x
  obtain ⟨rfl, hmem⟩ := hallows
  have hnamed : ((start {} {} "owner").draft {} declinedBeforeAddress).named = [] := by
    decide +kernel
  refine ⟨s, built, hs, by decide +kernel, hx, hseen, hmem, fun calls hgranted heq => ?_⟩
  rw [heq, hnamed, List.nil_append] at hmem
  obtain ⟨r, hr, hcall⟩ := hgranted.mem hmem
  rw [Recording.seen_of_mem_requests hr hcall.symm] at hseen
  cases hseen

end Tunnel

end SplitTunnel
