import SplitTunnel.Proofs.Net.Writing
import SplitTunnel.Proofs.Platform.Builders
import SplitTunnel.Proofs.Tunnel.Cases
import SplitTunnel.Routeplan

/-!
# The route planner shows what a tunnel does (`SPEC_FULL.md` §10.5, the command-line tool)

* `Tunnel.addAddress_text`, `Tunnel.addRoute_text`, `Tunnel.addDnsServer_text`: what is written for
  an argument is read as the argument.
* `Routeplan.assigned`, `Routeplan.calls`: what the options tell a recording, and the calls that
  they lead to.
* `Routeplan.operations`, `Routeplan.linesOf`: what is done to the tunnel, and what is shown of it.
* `Routeplan.IsAt`: how far a plan has come, with a lemma for each thing that is done.
* `Routeplan.run_bringUp`: a plan in which nothing fails is a run of the tunnel.
* `Routeplan.plan_faithful`: the plan as a whole.
-/

namespace SplitTunnel

open Net

/-! ## Arguments -/

/-- The network that the interface address `a` is in. -/
def Net.InterfaceAddress.network (a : InterfaceAddress) : Block :=
  ⟨a.address.network a.prefixLength, a.prefixLength, a.prefixLength_le, a.address.dvd_clearLast _⟩

namespace Tunnel

/-- `a.text` denotes `a`, also when it is trimmed before. -/
theorem literal?_text (a : Address) : literal? a.text = some a := by
  have htrim : Text.trim a.chars = a.chars :=
    Text.trim_eq_self fun c => Address.isBlank_of_mem_chars
  rw [literal?, Address.text, String.toList_ofList, htrim, Address.ofChars?_chars]

theorem length?_prefixLength (a : InterfaceAddress) :
    length? a.prefixLength = some a.prefixLength := by
  have hle : a.prefixLength ≤ 255 := by
    have := a.prefixLength_le
    have : a.address.family.width ≤ 128 := by cases a.address.family <;> decide
    omega
  show (some a.prefixLength).filter _ = _
  simpa using hle

theorem addAddress_text (t : Tunnel) (a : InterfaceAddress) :
    t.addAddress a.address.text a.prefixLength = t.record (·.addAddress a) := by
  simp only [addAddress, literal?_text, length?_prefixLength, Option.bind_eq_bind,
    Option.bind_some, InterfaceAddress.of?, dif_pos a.prefixLength_le]

theorem addRoute_text (t : Tunnel) (a : InterfaceAddress) :
    t.addRoute a.address.text a.prefixLength = t.record (·.addRoute a.network) := by
  simp only [addRoute, literal?_text, length?_prefixLength, Option.bind_eq_bind,
    Option.bind_some, Block.of?, dif_pos a.prefixLength_le]
  rfl

theorem addDnsServer_text (p : Platform) (t : Tunnel) (a : Address) :
    t.addDnsServer p a.text = t.tell p (.addDnsServer a) (·.addDnsServer a) := by
  simp only [addDnsServer, literal?_text]

end Tunnel

namespace Routeplan

variable {t : Tunnel} {c : Capabilities} {initial r : Recording} {lines : List String}

/-! ## What a plan is to show -/

/-- `initial` with all that the options `o` hold. -/
def assigned (o : Options) (initial : Recording) : Recording :=
  o.dnsServers.foldl Recording.addDnsServer <|
    (o.routes.map InterfaceAddress.network).foldl Recording.addRoute <|
      o.addresses.foldl Recording.addAddress initial

/-- The calls before the interface comes up: those of the placeholder, or the DNS servers and then
what the recording asks for. -/
def calls (o : Options) (c : Capabilities) (initial : Recording) : List Call :=
  if o.blocking then (Tunnel.Placeholder.requests initial c).map Request.call
  else o.dnsServers.map .addDnsServer ++ ((assigned o initial).requests c).map Request.call

/-- What the options `o` hold, as requests to a tunnel. -/
def requested (o : Options) : List EngineRequest :=
  o.addresses.map (fun a => .addAddress a.address.text a.prefixLength) ++
    o.routes.map (fun a => .addRoute a.address.text a.prefixLength) ++
    o.dnsServers.map (fun a => .addDnsServer a.text)

/-- What the options `o` ask of a tunnel with a profile. -/
def operations (o : Options) : List Operation :=
  if o.blocking then [.raisePlaceholder]
  else (requested o ++ [EngineRequest.establish]).map .request

/-- What is shown of `events`, all that has happened. -/
def linesOf (events : List Event) : List String := events.filterMap line?

/-- Builders, readers and descriptors that are closed are not shown. -/
theorem linesOf_log (host : Host) {e : Event} (he : line? e = none) :
    linesOf (host.log e).events = linesOf host.events := by
  rw [linesOf, Host.log, List.filterMap_append, List.filterMap_cons_none he]
  exact List.append_nil _

theorem linesOf_create (host : Host) (session : String) :
    linesOf (host.create session).1.events = linesOf host.events :=
  linesOf_log { host with builders := host.builders ++ [⟨session, []⟩] } rfl

theorem linesOf_drainFrom (p : Platform) (host : Host) (i mtu : Nat) :
    linesOf (host.drainFrom p i mtu).1.events = linesOf host.events := by
  unfold Host.drainFrom
  split <;> exact linesOf_log _ rfl

theorem linesOf_lowerPlaceholder (t : Tunnel) :
    linesOf t.lowerPlaceholder.host.events = linesOf t.host.events := by
  unfold Tunnel.lowerPlaceholder
  split
  · rfl
  · unfold Host.close
    split
    · exact linesOf_log _ rfl
    · rfl

theorem linesOf_commit (t : Tunnel) (established : Recording) :
    linesOf (t.commit established).host.events = linesOf t.host.events := by
  unfold Tunnel.commit
  split
  · exact linesOf_lowerPlaceholder t
  · rw [linesOf_lowerPlaceholder]
    exact linesOf_create ..

/-- What is shown of an interface for which `requests` are put. -/
def linesFor (requests : List Request) : List String :=
  (requests.map Request.call).map Call.text ++ ["establish"]

/-- With `Platform.agreeing` all `requests` are shown, and the interface for them. -/
theorem linesOf_bringUp (h : Host) (builder : Nat) (requests : List Request) :
    ∃ h' i, h.bringUp .agreeing builder requests = (h', .ok i) ∧
      linesOf h'.events = linesOf h.events ++ linesFor requests := by
  obtain ⟨h', hup, hevents⟩ := h.events_bringUp_agreeing builder requests
  have hcalls : linesOf (requests.map fun r => .called builder r.call none) =
      (requests.map Request.call).map Call.text := by
    rw [linesOf, List.filterMap_map, List.map_map, ← List.filterMap_eq_map]
    rfl
  refine ⟨h', _, hup, ?_⟩
  rw [hevents, linesOf, List.filterMap_append, List.filterMap_append]
  exact congrArg (fun said => linesOf h.events ++ (said ++ ["establish"])) hcalls

/-! ## How far a plan has come -/

/-- The recording `r` is under way in `t`, and `lines` have been shown. -/
structure IsAt (t : Tunnel) (c : Capabilities) (initial r : Recording) (lines : List String) :
    Prop where
  lines : linesOf t.host.events = lines
  capabilities : t.capabilities = c
  session : ∃ s, t.session = some s ∧ s.initial = initial ∧ s.recording = r

theorem isAt_setProfile {p : Profile} {own : String}
    (hstart : Recording.start p own = .ok initial) (c : Capabilities) :
    ∃ t, (Tunnel.start c c own).setProfile p = (t, .ok ()) ∧ IsAt t c initial initial [] := by
  have hcaps : c.intersect c = c := by simp [Capabilities.intersect]
  have hown : (Tunnel.start c c own).owningApp = own := rfl
  exact ⟨_, by rw [Tunnel.setProfile, hown, hstart], rfl, hcaps, _, rfl, rfl, rfl⟩

theorem IsAt.record (h : IsAt t c initial r lines) (f : Recording → Recording) :
    ∃ t', t.record f = (t', true) ∧ IsAt t' c initial (f r) lines := by
  obtain ⟨hlines, hcaps, s, hs, hi, rfl⟩ := h
  rcases t.record_cases f with ⟨hnone, -⟩ | ⟨s', hs', he⟩
  · cases hs.symm.trans hnone
  · obtain rfl : s = s' := Option.some.inj (hs.symm.trans hs')
    exact ⟨_, he, hlines, hcaps, _, rfl, hi, rfl⟩

theorem IsAt.tell (h : IsAt t c initial r lines) (call : Call) (f : Recording → Recording) :
    ∃ t', t.tell .agreeing call f = (t', true) ∧
      IsAt t' c initial (f r) (lines ++ [call.text]) := by
  obtain ⟨rfl, hcaps, s, hs, hi, rfl⟩ := h
  rcases t.tell_cases .agreeing call f with
    ⟨hnone, -⟩ | ⟨s', host, hs', hhost, ⟨cause, hanswer, -⟩ | ⟨-, hanswer, he⟩⟩
  · cases hs.symm.trans hnone
  · rw [Host.answerTo_agreeing] at hanswer
    cases hanswer
  · obtain rfl : s = s' := Option.some.inj (hs.symm.trans hs')
    have htold := (Host.told_submit .agreeing t.host s.builder call).events
    rw [hhost, hanswer] at htold
    refine ⟨_, he, ?_, hcaps, _, rfl, hi, rfl⟩
    show linesOf host.events = _
    rw [htold, linesOf, List.filterMap_append]
    rfl

theorem IsAt.establish (h : IsAt t c initial r lines) :
    ∃ t' i, t.establish .agreeing = (t', .ok i) ∧
      linesOf t'.host.events = lines ++ linesFor (r.requests c) := by
  obtain ⟨rfl, rfl, s, hs, -, rfl⟩ := h
  obtain ⟨host, i, hup, hlines⟩ :=
    linesOf_bringUp t.host s.builder (s.recording.requests t.capabilities)
  refine ⟨{ t with host }.commit s.recording, i, ?_, ?_⟩
  · simp only [Tunnel.establish, hs, hup]
  · rw [linesOf_commit, hlines]

theorem IsAt.raisePlaceholder (h : IsAt t c initial r lines) :
    ∃ t', t.raisePlaceholder .agreeing = (t', .ok ()) ∧
      linesOf t'.host.events = lines ++ linesFor (Tunnel.Placeholder.requests initial c) := by
  obtain ⟨rfl, rfl, s, hs, rfl, -⟩ := h
  obtain ⟨host, i, hup, hlines⟩ := linesOf_bringUp (t.host.create s.profile.name).1
    (t.host.create s.profile.name).2 (Tunnel.Placeholder.requests s.initial t.capabilities)
  refine ⟨_, Tunnel.raisePlaceholder_of_up hs hup rfl, ?_⟩
  calc linesOf ((Tunnel.commit { t with host } _).host.drainFrom .agreeing i _).1.events
    _ = linesOf (Tunnel.commit { t with host } _).host.events := linesOf_drainFrom ..
    _ = linesOf host.events := linesOf_commit ..
    _ = _ := by rw [hlines, linesOf_create]

/-- The items of `l` are accepted one by one, and `said` of each is shown. -/
theorem IsAt.all_accepted (give : Tunnel → α → Tunnel × Bool) (refused : α → String)
    (learn : Recording → α → Recording) (said : α → List String)
    (hgive : ∀ {t r lines} a, IsAt t c initial r lines →
      ∃ t', give t a = (t', true) ∧ IsAt t' c initial (learn r a) (lines ++ said a))
    (l : List α) (h : IsAt t c initial r lines) :
    ∃ t', giveAll give refused t l = (t', none) ∧
      IsAt t' c initial (l.foldl learn r) (lines ++ l.flatMap said) := by
  induction l generalizing t r lines with
  | nil => exact ⟨t, rfl, by simpa using h⟩
  | cons a rest ih =>
    obtain ⟨t₁, hfirst, h₁⟩ := hgive a h
    obtain ⟨t₂, hrest, h₂⟩ := ih h₁
    refine ⟨t₂, ?_, ?_⟩
    · rw [giveAll, hfirst]
      exact hrest
    · rw [List.flatMap_cons, ← List.append_assoc]
      exact h₂

/-- The items of `l` are recorded one by one, and nothing is shown of them. -/
theorem IsAt.all_recorded (give : Tunnel → α → Tunnel × Bool) (refused : α → String)
    (learn : Recording → α → Recording)
    (hgive : ∀ t a, give t a = t.record fun r => learn r a) (l : List α)
    (h : IsAt t c initial r lines) :
    ∃ t', giveAll give refused t l = (t', none) ∧ IsAt t' c initial (l.foldl learn r) lines := by
  have hquiet : l.flatMap (fun _ => ([] : List String)) = [] :=
    List.flatMap_eq_nil_iff.mpr fun _ _ => rfl
  have hall := h.all_accepted give refused learn (fun _ => []) (fun {t r lines} a h => by
    rw [hgive, List.append_nil]
    exact h.record fun r => learn r a) l
  rwa [hquiet, List.append_nil] at hall

/-- All that `o` holds is accepted, and the DNS servers are shown. -/
theorem IsAt.options_accepted (h : IsAt t c initial r lines) (o : Options) :
    ∃ t', give .agreeing o t = (t', none) ∧ IsAt t' c initial (assigned o r)
      (lines ++ o.dnsServers.map fun a => (Call.addDnsServer a).text) := by
  obtain ⟨t₁, haddresses, h₁⟩ := h.all_recorded _
    (fun a => "rejected address " ++ argument a) _ Tunnel.addAddress_text o.addresses
  obtain ⟨t₂, hroutes, h₂⟩ := h₁.all_recorded _
    (fun a => "rejected route " ++ argument a) _ Tunnel.addRoute_text o.routes
  obtain ⟨t₃, hservers, h₃⟩ := h₂.all_accepted (fun t a => t.addDnsServer .agreeing a.text)
    (fun a => "rejected dns server " ++ a.text) Recording.addDnsServer
    (fun a => [(Call.addDnsServer a).text]) (fun {t r lines} a h => by
      rw [Tunnel.addDnsServer_text]
      exact h.tell (.addDnsServer a) (·.addDnsServer a)) o.dnsServers
  refine ⟨t₃, ?_, ?_⟩
  · simp only [give, haddresses, hroutes, hservers]
  · rw [assigned, List.foldl_map, List.map_eq_flatMap]
    exact h₃

/-- What `o` asks for is shown, and nothing fails. -/
theorem IsAt.bringUp_agreeing (h : IsAt t c initial initial []) (o : Options) :
    ∃ t', bringUp .agreeing o t = (t', none) ∧
      linesOf t'.host.events = (calls o c initial).map Call.text ++ ["establish"] := by
  unfold bringUp calls
  by_cases hblocking : o.blocking = true
  · obtain ⟨t', hraise, hlines⟩ := h.raisePlaceholder
    refine ⟨t'.lowerPlaceholder, ?_, ?_⟩
    · simp only [hblocking, if_true, hraise]
    · rw [linesOf_lowerPlaceholder, hlines, if_pos hblocking]
      rfl
  · obtain ⟨t₁, hgive, h₁⟩ := h.options_accepted o
    obtain ⟨t', i, hup, hlines⟩ := h₁.establish
    refine ⟨t', ?_, ?_⟩
    · simp only [if_neg hblocking, hgive, hup]
    · rw [hlines, if_neg hblocking]
      simp [linesFor]

/-! ## A plan as a run -/

variable {p : Platform} {t' : Tunnel}

/-- The items of `l` that are accepted one by one are served as requests. -/
theorem run_giveAll {give : Tunnel → α → Tunnel × Bool} {refused : α → String}
    (request : α → EngineRequest) (hserve : ∀ t a, (t.serve p (request a)).1 = (give t a).1)
    {l : List α} (h : giveAll give refused t l = (t', none)) :
    t.run (l.map fun a => (p, .request (request a))) = t' := by
  induction l generalizing t with
  | nil =>
    cases h
    rfl
  | cons a rest ih =>
    have hfirst := hserve t a
    unfold giveAll at h
    split at h
    · next t₁ he =>
      rw [he] at hfirst
      show Tunnel.run (t.serve p (request a)).1 _ = t'
      rw [hfirst]
      exact ih h
    · cases h

theorem run_give {o : Options} (h : give p o t = (t', none)) :
    t.run ((requested o).map fun r => (p, .request r)) = t' := by
  unfold give at h
  split at h
  · cases h
  · next t₁ haddresses =>
    split at h
    · cases h
    · next t₂ hroutes =>
      rw [requested, List.map_append, List.map_append, List.map_map, List.map_map, List.map_map,
        Tunnel.run_append, Tunnel.run_append]
      have h₁ := run_giveAll (p := p) (fun a => .addAddress a.address.text a.prefixLength)
        (fun t a => by rw [Tunnel.serve, Tunnel.fst_recorded]) haddresses
      have h₂ := run_giveAll (p := p) (fun a => .addRoute a.address.text a.prefixLength)
        (fun t a => by rw [Tunnel.serve, Tunnel.fst_recorded]) hroutes
      have h₃ := run_giveAll (p := p) (fun a => .addDnsServer a.text)
        (fun t a => by rw [Tunnel.serve, Tunnel.fst_recorded]) h
      rw [← h₃, ← h₂, ← h₁]
      rfl

/-- What is shown when nothing fails is what `operations` lead to. The placeholder is lowered
afterwards, of which nothing is shown. -/
theorem run_bringUp {o : Options} (h : bringUp p o t = (t', none)) :
    linesOf (t.run ((operations o).map fun x => (p, x))).host.events = linesOf t'.host.events := by
  unfold bringUp at h
  unfold operations
  split at h
  · next hblocking =>
    rw [if_pos hblocking]
    split at h
    · next t₁ hraise =>
      cases h
      rw [linesOf_lowerPlaceholder]
      show linesOf (t.perform p .raisePlaceholder).1.host.events = _
      simp only [Tunnel.perform, hraise]
    · cases h
  · next hblocking =>
    rw [if_neg hblocking]
    split at h
    · cases h
    · next t₁ hgive =>
      split at h
      · next t₂ i hup =>
        cases h
        rw [List.map_map, List.map_append, Tunnel.run_append]
        have hrun : t.run ((requested o).map ((fun x => (p, x)) ∘ .request)) = t₁ := run_give hgive
        rw [hrun]
        show linesOf (t₁.serve p .establish).1.host.events = _
        rw [Tunnel.serve, Tunnel.fst_came, hup]
      · cases h

/-! ## The plan -/

theorem planFor_of_error (p : Platform) (o : Options) (c : ServiceConfig) {profile : Profile}
    {e : LiteralError}
    (hstart : Recording.start profile (o.owningApp.getD c.owningAppId) = .error e) :
    planFor p o c profile = ⟨[], some e.message⟩ := by
  have hset := Tunnel.setProfile_of_error (v := profile) (e := e) (t := Tunnel.start
    (capabilities o c) (capabilities o c) (o.owningApp.getD c.owningAppId)) hstart
  simp only [planFor, hset]
  rfl

theorem planFor_of_ok (o : Options) (c : ServiceConfig) {profile : Profile}
    (hstart : Recording.start profile (o.owningApp.getD c.owningAppId) = .ok initial) :
    planFor .agreeing o c profile =
        ⟨(calls o (capabilities o c) initial).map Call.text ++ ["establish"], none⟩ ∧
      linesOf ((Tunnel.start (capabilities o c) (capabilities o c)
        (o.owningApp.getD c.owningAppId)).run
          ((.setProfile profile :: operations o).map fun x => (.agreeing, x))).host.events =
        (calls o (capabilities o c) initial).map Call.text ++ ["establish"] := by
  obtain ⟨t₁, hset, h₁⟩ := isAt_setProfile hstart (capabilities o c)
  obtain ⟨t₂, hup, hlines⟩ := h₁.bringUp_agreeing o
  constructor
  · simp only [planFor, hset, hup]
    exact congrArg (Report.mk · none) hlines
  · rw [← hlines, ← run_bringUp hup]
    show linesOf (((Tunnel.start _ _ _).perform _ (.setProfile profile)).1.run _).host.events = _
    simp only [Tunnel.perform, hset]

/-- With `Platform.agreeing` nothing goes wrong, unless the subnets of `profile` cannot be read. -/
theorem failure_planFor (o : Options) (c : ServiceConfig) (profile : Profile) :
    (planFor .agreeing o c profile).failure = none ∨
      ∃ e : LiteralError, (planFor .agreeing o c profile).failure = some e.message := by
  cases hstart : Recording.start profile (o.owningApp.getD c.owningAppId) with
  | error e => exact .inr ⟨e, by rw [planFor_of_error _ o c hstart]⟩
  | ok initial => exact .inl (by rw [(planFor_of_ok o c hstart).1])

/-- The message for subnets that cannot be read is told apart from those for a refused argument. -/
theorem getElem?_one_message_ne (e : LiteralError) : e.message.toList[1]? ≠ some 'e' := by
  cases e <;> simp [LiteralError.message, LiteralError.summary]

/-- No failure of a plan is said in a text whose second letter is an e. -/
theorem failure_planFor_ne (o : Options) (c : ServiceConfig) (profile : Profile) {s : String}
    (hs : s.toList[1]? = some 'e') : (planFor .agreeing o c profile).failure ≠ some s := by
  rcases failure_planFor o c profile with hnone | ⟨e, he⟩
  · rw [hnone]
    nofun
  · rw [he]
    rintro ⟨⟩
    exact getElem?_one_message_ne e hs

/-- `planFor` fails before anything is shown exactly if the subnets cannot be read. -/
theorem planFor_fails_iff (o : Options) (c : ServiceConfig) (profile : Profile) :
    (planFor .agreeing o c profile).lines = [] ∧ (planFor .agreeing o c profile).failure.isSome ↔
      ∃ e, profile.included = .error e ∨ profile.excluded = .error e := by
  rw [← @Recording.exists_start_eq_error_iff profile (o.owningApp.getD c.owningAppId)]
  cases hstart : Recording.start profile (o.owningApp.getD c.owningAppId) with
  | error e =>
    rw [planFor_of_error _ o c hstart]
    simp
  | ok initial =>
    rw [(planFor_of_ok o c hstart).1]
    simp

/-- `plan` is what a tunnel does with `Platform.agreeing`, which takes everything. It fails, before
anything is shown, exactly if the subnets cannot be read. Otherwise it shows the calls for the
placeholder, or the DNS servers and then all that the recording with all arguments asks for. No
argument is refused. -/
theorem plan_faithful (o : Options) {configFile profileFile : Reading} {c : ServiceConfig}
    {p : Profile} (hc : ServiceConfig.load configFile = .ok c)
    (hp : profile o.profile profileFile = .ok p) :
    let r := plan .agreeing o configFile profileFile
    let owningApp := o.owningApp.getD c.owningAppId
    let able : Capabilities := {
      perAppScoping := c.capabilities.perAppScoping && !o.noAppScoping
      familyBypass := c.capabilities.familyBypass && !o.noFamilyBypass
      blockingPlaceholder := c.capabilities.blockingPlaceholder }
    (r.lines = [] ∧ r.failure.isSome ↔ ∃ e, p.included = .error e ∨ p.excluded = .error e) ∧
    (∀ included excluded, p.included = .ok included → p.excluded = .ok excluded →
      ∃ initial, Recording.start p owningApp = .ok initial ∧ r.failure = none ∧
        r.lines = (calls o able initial).map Call.text ++ ["establish"] ∧
        r.lines = linesOf ((Tunnel.start able able owningApp).run
          ((.setProfile p :: operations o).map fun x => (.agreeing, x))).host.events) ∧
    ∀ what, r.failure ≠ some ("rejected address " ++ what) ∧
      r.failure ≠ some ("rejected route " ++ what) ∧
      r.failure ≠ some ("rejected dns server " ++ what) := by
  intro r owningApp able
  have hr : r = planFor .agreeing o c p := by simp only [r, plan, hc, hp]
  rw [hr]
  refine ⟨planFor_fails_iff o c p, fun included excluded hi he => ?_, fun what => ?_⟩
  · obtain ⟨initial, hstart, -⟩ := Recording.start_of_ok hi he owningApp
    obtain ⟨hplan, hrun⟩ := planFor_of_ok o c hstart
    rw [hplan]
    exact ⟨initial, hstart, rfl, rfl, hrun.symm⟩
  · have hne {s : String} (hs : s.toList[1]? = some 'e') := failure_planFor_ne o c p hs
    exact ⟨hne (by simp), hne (by simp), hne (by simp)⟩

/-- A plan for `10.0.0.2/32`, a route to `10.1.2.3/16` and a server, where apps cannot be scoped. -/
theorem plan_faithful_routes :
    let o : Options := {
      profile := "p.json"
      addresses := [⟨⟨.ipv4, 0x0A000002, by decide⟩, 32, by decide⟩]
      routes := [⟨⟨.ipv4, 0x0A010203, by decide⟩, 16, by decide⟩]
      dnsServers := [⟨.ipv4, 0x0A000001, by decide⟩]
      noAppScoping := true }
    (plan .agreeing o .missing (.content [0x7B, 0x7D])).lines =
      ["add_dns_server 10.0.0.1", "add_address 10.0.0.2/32", "add_route 10.1.0.0/16",
        "allow_family ipv6", "set_mtu 1500", "establish"] := by
  intro o
  have hread : (Json.ofSymbols? (Text.symbols [0x7B, 0x7D])).bind Profile.ofJson? = some {} := by
    decide +kernel
  have hp : profile o.profile (.content [0x7B, 0x7D]) = .ok {} := by rw [profile, hread]
  have hc : ServiceConfig.load .missing = .ok {} := rfl
  obtain ⟨-, hok, -⟩ := plan_faithful o hc hp
  obtain ⟨initial, hstart, -, hlines, -⟩ := hok .empty .empty rfl rfl
  have hcalls : (Recording.start {} "org.strongswan.android").toOption.map (fun initial =>
      (calls o { perAppScoping := false } initial).map Call.text) =
      some ["add_dns_server 10.0.0.1", "add_address 10.0.0.2/32", "add_route 10.1.0.0/16",
        "allow_family ipv6", "set_mtu 1500"] := by decide +kernel
  have hown : o.owningApp.getD ({} : ServiceConfig).owningAppId = "org.strongswan.android" := rfl
  rw [hown] at hstart
  rw [hstart] at hcalls
  rw [hlines]
  exact congrArg (· ++ ["establish"]) (Option.some.inj hcalls)

end Routeplan

end SplitTunnel
