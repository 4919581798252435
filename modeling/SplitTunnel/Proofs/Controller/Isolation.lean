import SplitTunnel.Proofs.Controller.Deeds
import SplitTunnel.Proofs.Tunnel.Spent

/-!
# Attempts are isolated (`SPEC_FULL.md` §4.5, and §5 for callbacks during a switch)

Each time the engine is brought up it gets a handle of the tunnel. It may go on using the handle
while the next profile is already set, until it has been taken down.

* `Controller.attempts`, `Controller.hasEngine`: how many handles have been given, and whether the
  last one may be used.
* `Controller.outline`: a run without what is done with earlier handles and at descriptors.
* `Controller.outcomes`, `Controller.exhibit`: what comes of the requests with a handle, and all
  that happened at the builders of the interfaces.
* `Controller.Fits`: another tunnel may stand in for the loop's one from a handle on.
* `Controller.attempts_isolated`: what is done with earlier handles has no effect on what comes of
  requests with a handle.
-/

namespace SplitTunnel

/-- The engine is given a handle. -/
def EngineCall.isBringUp : EngineCall → Bool
  | bringUp .. => true
  | _ => false

/-- `t` after what is done to it, if something is. -/
def Tunnel.after (p : Platform) (t : Tunnel) : Option Operation → Tunnel
  | none => t
  | some o => (t.perform p o).1

/-- A handle is about to be given. -/
def Stage.isBringingUp : Stage → Bool
  | bringingUp _ => true
  | _ => false

namespace Controller

/-- What the engine asks of the tunnel with a move. -/
def Move.request? : Move → Option EngineRequest
  | .act (.callback (.request r)) => some r
  | _ => none

/-- The number of handles that the engine has been given, which is that of the last one. -/
def attempts (c : Controller) : Nat := c.calls.countP EngineCall.isBringUp

/-- The engine of `c` may use its last handle: it is being brought up, is up, or is being taken
down. An engine that has not come up is not taken down, and has lost its handle. -/
def hasEngine (c : Controller) : Bool :=
  c.current.isSome ||
    match c.stage with
    | .inBringUp _ | .takingDown _ | .inTakeDown _ => true
    | _ => false

/-- The requests of a run that are made with no handle that may be used. -/
def trespasses (p : Platform) (c : Controller) (moves : List Move) : List EngineRequest :=
  c.gather (fun c m => if c.hasEngine then none else m.request?) p moves

/-- The move is a request with a handle before the `n`th, or is at a descriptor. -/
def isHidden (n : Nat) (c : Controller) : Move → Bool
  | .act (.callback (.request _)) => c.attempts < n
  | .descriptor .. => true
  | _ => false

/-- `moves` without requests with handles before the `n`th and without what happens at descriptors.
-/
def outline (p : Platform) (n : Nat) (c : Controller) (moves : List Move) : List Move :=
  c.gather (fun c m => if c.isHidden n m then none else some m) p moves

/-- A request with the `n`th handle, and its outcome. -/
def outcome? (p : Platform) (n : Nat) (c : Controller) (m : Move) :
    Option (EngineRequest × Outcome) :=
  if c.attempts = n then m.request?.map fun r => (r, (c.tunnel.serve p r).2) else none

/-- The requests with the `n`th handle in a run, and their outcomes. -/
def outcomes (p : Platform) (n : Nat) (c : Controller) (moves : List Move) :
    List (EngineRequest × Outcome) :=
  c.gather (outcome? p n) p moves

/-- A request and its outcome. In the place of an interface stands all that happened until now at
its builder. -/
def exhibit (c : Controller) :
    EngineRequest × Outcome → EngineRequest × Except Outcome (List BuilderEvent)
  | (r, outcome) => (r, Tunnel.answer (c.tunnel, outcome))

/-- A request with the `n`th handle, and what comes of it. -/
def reply? (p : Platform) (n : Nat) (c : Controller) (m : Move) :
    Option (EngineRequest × Except Outcome (List BuilderEvent)) :=
  if c.attempts = n then m.request?.map fun r => (r, c.tunnel.reply p r) else none

/-- The requests with the `n`th handle in a run, and what comes of each. -/
def replies (p : Platform) (n : Nat) (c : Controller) (moves : List Move) :
    List (EngineRequest × Except Outcome (List BuilderEvent)) :=
  c.gather (reply? p n) p moves

variable {p q : Platform} {c c' d : Controller} {m : Move} {moves moves' : List Move} {n : Nat}
  {t : Tunnel}

/-! ## Another tunnel -/

/-- What a move does to the tunnel, if it does not happen at a descriptor. -/
def operation? (c : Controller) : Move → Option Operation
  | .act (.callback (.request r)) => some (.request r)
  | .act (.advance _) =>
    match c.stage with
    | .adopting v | .preparing v => some (.setProfile v)
    | .blocking _ => some .raisePlaceholder
    | .lowering => some .lowerPlaceholder
    | _ => none
  | _ => none

theorem pick_tunnel (c : Controller) (hc : t.capabilities = c.tunnel.capabilities)
    (target : Target) :
    ({ c with tunnel := t } : Controller).pick target = { c.pick target with tunnel := t } := by
  unfold pick
  split
  · dsimp only
    rw [hc]
    split <;> rfl
  · rfl

theorem look?_tunnel (hl : c.look? = some c') (hc : t.capabilities = c.tunnel.capabilities) :
    ({ c with tunnel := t } : Controller).look? = some { c' with tunnel := t } := by
  unfold look? at hl ⊢
  dsimp only
  split at hl
  · cases hl
    exact congrArg some (pick_tunnel { c with slot := c.slot.seen } hc _)
  · split at hl <;> cases hl
    next hh => exact (if_neg hh).trans (congrArg some (pick_tunnel c hc none))

/-- `advance?` takes the same step with another tunnel `t` of the same capabilities. -/
theorem advance?_tunnel {up : Bool} (ha : c.advance? p up = some c')
    (hc : t.capabilities = c.tunnel.capabilities) (q : Platform) :
    c'.tunnel = c.tunnel.after p (c.operation? (.act (.advance up))) ∧
      ({ c with tunnel := t } : Controller).advance? q up =
        some { c' with tunnel := t.after q (c.operation? (.act (.advance up))) } := by
  unfold advance? at ha ⊢
  unfold operation?
  dsimp only
  split at ha
  case h_1 | h_2 => cases ha
  case h_3 hs =>
    obtain ⟨target, -, slot, rfl⟩ := look?_eq_some hs ha
    rw [hs]
    exact ⟨tunnel_pick .., look?_tunnel ha hc⟩
  case h_4 v hs =>
    cases ha
    rw [hs]
    refine ⟨(Tunnel.fst_perform_setProfile p c.tunnel v).symm, ?_⟩
    rw [Tunnel.after, Tunnel.fst_perform_setProfile]
    rfl
  case h_5 v hs =>
    cases ha
    rw [hs]
    refine ⟨(Tunnel.fst_perform_raisePlaceholder p c.tunnel).symm, ?_⟩
    rw [Tunnel.after, Tunnel.fst_perform_raisePlaceholder]
    rfl
  case h_6 next hs =>
    rw [hs]
    split at ha <;> cases ha <;> cases next <;> exact ⟨rfl, rfl⟩
  case h_13 v hs =>
    have hok := (c.tunnel.isOk_setProfile v).trans (t.isOk_setProfile v).symm
    have hleft := Tunnel.fst_perform_setProfile p c.tunnel v
    have hright := Tunnel.fst_perform_setProfile q t v
    rw [hs]
    dsimp only [Tunnel.after]
    rw [hleft, hright]
    rcases hl : c.tunnel.setProfile v with ⟨t₁, e | u⟩ <;>
      rcases hr : t.setProfile v with ⟨t₂, e' | u'⟩ <;> rw [hl, hr] at hok <;> cases hok <;>
      rw [hl] at ha <;> cases ha <;> exact ⟨rfl, rfl⟩
  case h_15 v hs | h_16 v hs =>
    rw [hs]
    split at ha <;> cases ha
    · next hif => exact ⟨rfl, if_pos hif⟩
    · next hif => exact ⟨rfl, if_neg hif⟩
  all_goals
    next hs =>
    cases ha
    rw [hs]
    exact ⟨rfl, rfl⟩

/-- What `move?` makes of the loop does not depend on the tunnel. -/
theorem move?_tunnel (hm : c.move? p m = some c') (hn : ∀ i a, m ≠ .descriptor i a)
    (hc : t.capabilities = c.tunnel.capabilities) (q : Platform) :
    c'.tunnel = c.tunnel.after p (c.operation? m) ∧
      ({ c with tunnel := t } : Controller).move? q m =
        some { c' with tunnel := t.after q (c.operation? m) } := by
  cases moved_of_move? hm with
  | start hs => exact ⟨rfl, if_pos hs⟩
  | request target hh ho =>
    refine ⟨rfl, if_pos ?_⟩
    exact Bool.and_eq_true_iff.mpr ⟨hh, ho⟩
  | dropHandles => exact ⟨rfl, rfl⟩
  | callback b => cases b <;> exact ⟨rfl, rfl⟩
  | advance up _ ha => exact advance?_tunnel ha hc q
  | descriptor i a => exact absurd rfl (hn i a)

/-! ## Handles -/

/-- The number of handles with the one that is about to be given. -/
def coming (c : Controller) : Nat := c.attempts + if c.stage.isBringingUp then 1 else 0

theorem coming_of_unprepared (calls : c'.attempts = c.attempts)
    (hs : c'.stage.isBringingUp = false) : c'.coming ≤ c.coming := by
  rw [coming, coming, calls, hs]
  exact Nat.le_add_right _ _

theorem attempts_call (c : Controller) (e : EngineCall) (s : Stage) :
    (c.call e s).attempts = c.attempts + if e.isBringUp then 1 else 0 := by
  rw [attempts, call, List.countP_append, List.countP_singleton]
  rfl

/-- A handle is about to be given only when a profile `v` has been set. -/
theorem coming_advance? {up : Bool} (ha : c.advance? p up = some c') :
    c'.coming ≤ c.coming ∨ ∃ v, c.operation? (.act (.advance up)) = some (.setProfile v) ∧
      v.isReadable = true := by
  unfold advance? at ha
  split at ha
  case h_1 | h_2 => cases ha
  case h_3 hs =>
    obtain ⟨target, -, slot, rfl⟩ := look?_eq_some hs ha
    refine .inl (coming_of_unprepared ?_ ?_)
    · rw [attempts, calls_pick]
      rfl
    · unfold pick
      split
      · split <;> rfl
      · rfl
  case h_6 next hs =>
    split at ha <;> cases ha <;> cases next <;> exact .inl (coming_of_unprepared rfl rfl)
  case h_7 next hs =>
    cases ha
    refine .inl (coming_of_unprepared ?_ rfl)
    rw [attempts_call]
    rfl
  case h_8 next hs =>
    cases ha
    cases next <;> exact .inl (coming_of_unprepared rfl rfl)
  case h_13 v hs =>
    have hok := c.tunnel.isOk_setProfile v
    split at ha
    · next tunnel he =>
      rw [he] at hok
      exact .inr ⟨v, by rw [operation?, hs], hok.symm⟩
    · cases ha
      exact .inl (coming_of_unprepared rfl rfl)
  case h_14 v hs =>
    cases ha
    refine .inl (Nat.le_of_eq ?_)
    rw [coming, coming, attempts_call, hs]
    rfl
  case h_15 v hs =>
    split at ha <;> cases ha <;> exact .inl (coming_of_unprepared rfl rfl)
  case h_16 v hs =>
    split at ha <;> cases ha
    · exact .inl (coming_of_unprepared rfl rfl)
    · refine .inl (coming_of_unprepared ?_ rfl)
      rw [attempts_call]
      rfl
  all_goals
    cases ha
    exact .inl (coming_of_unprepared rfl rfl)

theorem coming_move? (hm : c.move? p m = some c') :
    c'.coming ≤ c.coming ∨ ∃ v, c.operation? m = some (.setProfile v) ∧ v.isReadable = true := by
  cases moved_of_move? hm with
  | start hs => exact .inl (coming_of_unprepared rfl rfl)
  | advance up _ ha => exact coming_advance? ha
  | callback b => cases b <;> exact .inl (Nat.le_refl _)
  | request | dropHandles | descriptor => exact .inl (Nat.le_refl _)

/-- An engine that may use its handle has been given it. -/
theorem Placed.coming_eq (h : c.Placed) (hu : c.hasEngine = true) : c.coming = c.attempts := by
  have hs : c.stage.isBringingUp = false := by
    cases hs : c.stage with
    | bringingUp v =>
      have hdown := h.down (by rw [hs]; rfl)
      rw [hasEngine, hdown, hs] at hu
      cases hu
    | _ => rfl
  rw [coming, hs]
  rfl

/-! ## Two runs -/

/-- The tunnel `t` fits the loop `c`: it works like the loop's own one from the `n`th handle on. -/
structure Fits (n : Nat) (c : Controller) (t : Tunnel) : Prop where
  capabilities : t.capabilities = c.tunnel.capabilities
  owningApp : t.owningApp = c.tunnel.owningApp
  left : c.tunnel.Twins c.tunnel
  right : t.Twins t
  twins : n ≤ c.coming → c.tunnel.Twins t

theorem fits_create (n : Nat) (config : ServiceConfig) (supported : Capabilities) :
    Fits n (create config supported) (create config supported).tunnel :=
  have htwins := Tunnel.twins_start config.capabilities supported config.owningAppId
  ⟨rfl, rfl, htwins, htwins, fun _ => htwins⟩

/-- What both tunnels see, with the move `m`, keeps them alike. -/
theorem Fits.visible (h : Fits n c t) (ha : p.Alike q) (hm : c.move? p m = some c')
    (hn : ∀ i a, m ≠ .descriptor i a) : Fits n c' (t.after q (c.operation? m)) := by
  obtain ⟨htunnel, -⟩ := move?_tunnel hm hn h.capabilities q
  have hcoming := coming_move? hm
  cases ho : c.operation? m with
  | none =>
    rw [ho] at htunnel hcoming
    have htunnel : c'.tunnel = c.tunnel := htunnel
    have hcoming : c'.coming ≤ c.coming := by
      rcases hcoming with hcoming | ⟨v, hv, -⟩
      · exact hcoming
      · cases hv
    show Fits n c' t
    refine ⟨?_, ?_, ?_, h.right, fun hle => ?_⟩ <;> rw [htunnel]
    · exact h.capabilities
    · exact h.owningApp
    · exact h.left
    · exact h.twins (Nat.le_trans hle hcoming)
  | some o =>
    rw [ho] at htunnel hcoming
    have htunnel : c'.tunnel = (c.tunnel.perform p o).1 := htunnel
    obtain ⟨hcl, hol⟩ := Tunnel.capabilities_perform p c.tunnel o
    obtain ⟨hcr, hor⟩ := Tunnel.capabilities_perform q t o
    show Fits n c' (t.perform q o).1
    refine ⟨?_, ?_, ?_, h.right.perform ha.right o, fun hle => ?_⟩ <;> rw [htunnel]
    · exact hcr.trans (h.capabilities.trans hcl.symm)
    · exact hor.trans (h.owningApp.trans hol.symm)
    · exact h.left.perform ha.left o
    -- Before the handle is given a profile is set, and that makes twins of any two tunnels.
    · rcases hcoming with hcoming | ⟨v, hv, hread⟩
      · exact (h.twins (Nat.le_trans hle hcoming)).perform ha o
      · cases hv
        rw [Tunnel.fst_perform_setProfile, Tunnel.fst_perform_setProfile]
        exact Tunnel.twins_setProfile h.capabilities h.owningApp h.left.left h.right.left
          ((c.tunnel.isOk_setProfile v).trans hread)

/-- What only the loop's tunnel sees, with the move `m`, is done with an earlier handle, or at a
descriptor. -/
theorem Fits.hidden (h : Fits n c t) (ha : p.Alike p) (hp : c.Placed)
    (hm : c.move? p m = some c') (hhidden : c.isHidden n m = true)
    (hu : m.request?.isSome = true → c.hasEngine = true) :
    Fits n c' t ∧ { c' with tunnel := t } = ({ c with tunnel := t } : Controller) := by
  cases moved_of_move? hm with
  | start | request | dropHandles | advance => cases hhidden
  | callback b =>
    cases b with
    | updateStatus code => cases hhidden
    | request r =>
      have hlt : c.attempts < n := of_decide_eq_true hhidden
      have hcoming := hp.coming_eq (hu rfl)
      have hsame := Tunnel.sameProfile_serve p c.tunnel r
      refine ⟨⟨h.capabilities.trans hsame.capabilities.symm,
        h.owningApp.trans hsame.owningApp.symm, (h.left.serve ha r).2, h.right, fun hle => ?_⟩, rfl⟩
      have hle : n ≤ c.coming := hle
      omega
  | descriptor i a host hne hact =>
    have hkeeps : c.tunnel.KeepsBuilders { c.tunnel with host } :=
      ⟨Host.onlyAt_actAt? hact, rfl, rfl, rfl⟩
    exact ⟨⟨h.capabilities, h.owningApp, h.left.of_keepsBuilders hkeeps hkeeps, h.right,
      fun hle => (h.twins hle).of_keepsBuilders hkeeps (.refl t)⟩, rfl⟩

theorem reply?_of_isHidden (h : c.isHidden n m = true) (p : Platform) : c.reply? p n m = none := by
  rw [reply?]
  unfold isHidden at h
  split at h
  · exact if_neg (Nat.ne_of_lt (of_decide_eq_true h))
  · exact ite_self none
  · cases h

/-- With the tunnel `t` the same comes of a request with the `n`th handle. -/
theorem Fits.reply?_eq (h : Fits n c t) (ha : p.Alike q) (m : Move) :
    ({ c with tunnel := t } : Controller).reply? q n m = c.reply? p n m := by
  show (if c.attempts = n then m.request?.map fun r => (r, t.reply q r) else none) = _
  rw [reply?]
  by_cases hn : c.attempts = n
  · have htwins := h.twins (Nat.le_trans (Nat.le_of_eq hn.symm) (Nat.le_add_right ..))
    rw [if_pos hn, if_pos hn]
    simp only [(htwins.serve ha _).1]
  · rw [if_neg hn, if_neg hn]

theorem outline_cons (hm : c.move? p m = some c') (rest : List Move) :
    c.outline p n (m :: rest) =
      (if c.isHidden n m then [] else [m]) ++ c'.outline p n rest := by
  rw [outline, gather_cons hm]
  cases c.isHidden n m <;> rfl

theorem replies_cons (hm : c.move? p m = some c') (rest : List Move) :
    c.replies p n (m :: rest) = (c.reply? p n m).toList ++ c'.replies p n rest :=
  gather_cons hm rest

/-- In the `outline`, without what is done with earlier handles and at descriptors, the same comes
of the requests with the `n`th handle. -/
theorem Fits.replies_outline (h : Fits n c t) (ha : p.Alike q) (hp : c.Placed)
    (hu : c.trespasses p moves = []) (hd : c.run? p moves = some d) :
    ({ c with tunnel := t } : Controller).replies q n (c.outline p n moves) =
      c.replies p n moves := by
  induction moves generalizing c t with
  | nil => rfl
  | cons m rest ih =>
    obtain ⟨c', hm, hrest⟩ := run?_cons.mp hd
    have hp' := (hp.leads_move? hm).placed
    rw [trespasses, gather_cons hm] at hu
    obtain ⟨hu, hurest⟩ := List.append_eq_nil_iff.mp hu
    -- A request without a usable handle would be a trespass.
    have hengine : m.request?.isSome = true → c.hasEngine = true := by
      intro hr
      by_contra hnot
      rw [if_neg hnot, Option.toList_eq_nil_iff] at hu
      rw [hu] at hr
      cases hr
    rw [outline_cons hm, replies_cons hm]
    cases hhidden : c.isHidden n m with
    | true =>
      obtain ⟨hfits, hsame⟩ := h.hidden ha.left hp hm hhidden hengine
      rw [reply?_of_isHidden hhidden, ← hsame]
      exact ih hfits hp' hurest hrest
    | false =>
      have hn (i : Nat) (a : Drain.Action) : m ≠ .descriptor i a := by
        rintro rfl
        cases hhidden
      have hq := (move?_tunnel hm hn h.capabilities q).2
      show replies q n _ (m :: c'.outline p n rest) = _
      rw [replies_cons hq, h.reply?_eq ha]
      exact congrArg _ (ih (h.visible ha hm hn) hp' hurest hrest)

/-! ## Builders of interfaces -/

theorem spent_move? (h : c.tunnel.Spent) (hm : c.move? p m = some c') :
    c'.tunnel.Spent ∧ c.tunnel.host.KeepsRecords c'.tunnel.host := by
  by_cases hn : ∀ i a, m ≠ .descriptor i a
  · rw [(move?_tunnel hm hn rfl p).1]
    cases c.operation? m with
    | none => exact h.of_keepsBuilders (.refl _)
    | some o => exact h.perform p o
  · cases moved_of_move? hm with
    | descriptor i a host hne hact =>
      exact h.of_keepsBuilders ⟨Host.onlyAt_actAt? hact, rfl, rfl, rfl⟩
    | start | request | dropHandles | callback | advance => exact absurd (fun _ _ => nofun) hn

theorem spent_run? (h : c.tunnel.Spent) (hd : c.run? p moves = some d) :
    c.tunnel.host.KeepsRecords d.tunnel.host := by
  induction moves generalizing c with
  | nil =>
    cases hd
    exact (h.of_keepsBuilders (.refl _)).2
  | cons m rest ih =>
    obtain ⟨c', hm, hrest⟩ := run?_cons.mp hd
    obtain ⟨h', hkeeps⟩ := spent_move? h hm
    exact hkeeps.trans (ih h' hrest)

/-- What has happened at the builders of interfaces when they come up is all that happens there. -/
theorem exhibit_outcomes (h : c.tunnel.Spent) (hd : c.run? p moves = some d) :
    (c.outcomes p n moves).map d.exhibit = c.replies p n moves := by
  induction moves generalizing c with
  | nil => rfl
  | cons m rest ih =>
    obtain ⟨c', hm, hrest⟩ := run?_cons.mp hd
    have h' := (spent_move? h hm).1
    -- The builder of an interface is spent, so the record that the end of the run shows is complete
    -- here.
    have hkeeps := spent_run? h' hrest
    have hreply : (c.outcome? p n m).map d.exhibit = c.reply? p n m := by
      rw [outcome?, reply?]
      split
      · cases m with
        | start | descriptor => rfl
        | act a =>
          cases a with
          | request | dropHandles | advance => rfl
          | callback b =>
            cases b with
            | updateStatus code => rfl
            | request r =>
              cases hm
              exact congrArg (fun answer => some (r, answer)) (h.answer_serve hkeeps)
      · rfl
    rw [outcomes, gather_cons hm, List.map_append, replies_cons hm, ← hreply]
    exact congrArg₂ _ (by cases c.outcome? p n m <;> rfl) (ih h' hrest)

/-- Two runs of the loop, of `moves` and `moves'`, on platforms `p` and `q` that decide about a
builder by what happened there, in which the engine uses its handle only while it is being brought
up, is up, or is being taken down. If they have the same `outline`, so are the same but for requests
with handles before the `n`th, at whatever time the engine makes them, and for what happens at
descriptors, then the same comes of each request with the `n`th handle: it has the same outcome, and
if it is an interface, the same has happened at its builder by the end of the runs, which is all
that it was told and all that it answered. -/
theorem attempts_isolated (halike : p.Alike q) {config : ServiceConfig} {supported : Capabilities}
    {d' : Controller} (hd : (create config supported).run? p moves = some d)
    (hd' : (create config supported).run? q moves' = some d')
    (hu : (create config supported).trespasses p moves = [])
    (hu' : (create config supported).trespasses q moves' = [])
    (hsame : (create config supported).outline p n moves =
      (create config supported).outline q n moves') :
    ((create config supported).outcomes p n moves).map d.exhibit =
      ((create config supported).outcomes q n moves').map d'.exhibit := by
  have hfits := fits_create n config supported
  have hplaced := placed_create config supported
  have hspent : (create config supported).tunnel.Spent := Tunnel.spent_start ..
  calc ((create config supported).outcomes p n moves).map d.exhibit
      = (create config supported).replies p n moves := exhibit_outcomes hspent hd
    _ = (create config supported).replies q n ((create config supported).outline p n moves) :=
        (hfits.replies_outline halike hplaced hu hd).symm
    _ = (create config supported).replies q n ((create config supported).outline q n moves') := by
        rw [hsame]
    _ = (create config supported).replies q n moves' :=
        hfits.replies_outline halike.right hplaced hu' hd'
    _ = ((create config supported).outcomes q n moves').map d'.exhibit :=
        (exhibit_outcomes hspent hd').symm

/-- The engine makes `requests`. -/
def Move.requests (requests : List EngineRequest) : List Move :=
  requests.map fun r => .act (.callback (.request r))

/-- A platform whose builders take a search domain only when they have a DNS server. -/
def serverFirst : Platform :=
  .ofRecord (fun record c =>
    match c with
    | .addSearchDomain domain =>
      if record.any fun e => e matches .called (.addDnsServer _) none then none
      else some (.invalidArgument domain)
    | _ => none) fun _ => .up

/-- A connection is replaced by another one. The `old` engine makes requests when the next profile
has already been set, and the `new` one while it is being brought up. -/
def switchWith (old new : List EngineRequest) : List Move :=
  [.start, .act (.request (some plainProfile))] ++ List.replicate 10 .next ++
    [.act (.request (some plainProfile)), .next, .next] ++ Move.requests old ++
    List.replicate 7 .next ++ Move.requests new

/-- All that the old engine could leave behind. -/
def leftBehind : List EngineRequest :=
  [.addAddress "10.0.0.1" 32, .addRoute "10.0.0.0" 8, .setMtu 1280, .addDnsServer "10.0.0.53",
    .addSearchDomain "old", .establish, .addDnsServer "10.0.0.53"]

/-- What the new engine asks for. Its first request is refused. -/
def started : List EngineRequest :=
  [.addSearchDomain "new", .addDnsServer "10.1.0.53", .addSearchDomain "new",
    .addAddress "10.1.0.1" 32, .establish, .reestablish]

/-- `leftBehind` does not reach the interfaces of the new engine. -/
theorem attempts_isolated_switch :
    ∃ d d' : Controller, (create {} {}).run? serverFirst (switchWith leftBehind started) = some d ∧
      (create {} {}).run? serverFirst (switchWith [] started) = some d' ∧
      ((create {} {}).outcomes serverFirst 2 (switchWith leftBehind started)).map d.exhibit =
        ((create {} {}).outcomes serverFirst 2 (switchWith [] started)).map d'.exhibit ∧
      ((create {} {}).outcomes serverFirst 2 (switchWith [] started)).map Prod.fst = started := by
  obtain ⟨d, hd⟩ : ∃ d, (create {} {}).run? serverFirst (switchWith leftBehind started) = some d :=
    ⟨_, Option.eq_some_of_isSome (by decide +kernel)⟩
  obtain ⟨d', hd'⟩ : ∃ d, (create {} {}).run? serverFirst (switchWith [] started) = some d :=
    ⟨_, Option.eq_some_of_isSome (by decide +kernel)⟩
  have hsame := attempts_isolated (n := 2) (Platform.alike_ofRecord _ _) hd hd'
    (by decide +kernel) (by decide +kernel) (by decide +kernel)
  exact ⟨d, d', hd, hd', hsame, by decide +kernel⟩

end Controller

end SplitTunnel
