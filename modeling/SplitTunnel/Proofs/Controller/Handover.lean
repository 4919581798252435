import SplitTunnel.Proofs.Controller.Switch

/-!
# The old engine during a switch (`SPEC_FULL.md` §4.5, `stop_current_connection`)

While a switch is under way, the engine of the old connection is still up and may ask for an
interface until it has been taken down. It does not matter to the tunnel which engine asks: an
interface for what has been recorded ends the placeholder.

* `Controller.disturbs`, `Controller.undisturbed`: the moves after which there is no placeholder.
* `Controller.Blocks`, `Controller.Throughout`: a placeholder is read; a property of every state of
  a run.
* `Controller.throughout_blocks_iff`: from the time that the placeholder has come up, and until no
  connection is wanted, it is read throughout a run exactly if the run is undisturbed.
-/

namespace SplitTunnel.Controller

/-- The loop raises a placeholder that nobody can read. -/
def failsToRead (p : Platform) (c : Controller) : Move → Bool
  | .act (.advance _) =>
    match c.stage with
    | .blocking _ => (c.tunnel.raisePlaceholder p).2 == .error .drainFailed
    | _ => false
  | _ => false

/-- The move `m` leaves no placeholder, although the loop goes on to a connection. -/
def disturbs (p : Platform) (c : Controller) (m : Move) : Bool :=
  c.establishes p m || c.failsToRead p m

/-- No move of a run `disturbs`. -/
def undisturbed (p : Platform) (c : Controller) : List Move → Bool
  | [] => true
  | m :: rest => !c.disturbs p m && ((c.move? p m).map fun c' => c'.undisturbed p rest).getD true

/-- All states of a run have the property `P`, from the first to the last. -/
def Throughout (p : Platform) (P : Controller → Prop) (c : Controller) : List Move → Prop
  | [] => P c
  | m :: rest => P c ∧ ∀ c', c.move? p m = some c' → c'.Throughout p P rest

/-- `c` has a placeholder with a reader that nobody has asked to stop. It is there as long as
descriptors work. -/
def Blocks (works : Prop) (c : Controller) : Prop :=
  ∃ i reader, c.tunnel.placeholder = some i ∧ c.tunnel.host.drain? i = some reader ∧
    reader.stopRequested = false ∧ (works → reader.isAlive = true)

variable {p : Platform} {c c' d e : Controller} {m : Move} {moves rest : List Move} {works : Prop}

theorem undisturbed_cons (h : c.move? p m = some c') (rest : List Move) :
    c.undisturbed p (m :: rest) = (!c.disturbs p m && c'.undisturbed p rest) := by
  rw [undisturbed, h]
  rfl

theorem throughout_cons {P : Controller → Prop} (h : c.move? p m = some c') (rest : List Move) :
    c.Throughout p P (m :: rest) ↔ P c ∧ c'.Throughout p P rest := by
  rw [Throughout, h]
  refine and_congr_right fun _ => ⟨fun hall => hall c' rfl, fun hrest => ?_⟩
  rintro _ ⟨⟩
  exact hrest

theorem Throughout.first {P : Controller → Prop} (h : c.Throughout p P moves) : P c := by
  cases moves with
  | nil => exact h
  | cons m rest => exact h.1

/-- A placeholder that is `Kept` is one that blocks. -/
theorem blocks_iff (h : c.tunnel.Kept works) :
    c.Blocks works ↔ c.tunnel.placeholder.isSome = true := by
  refine ⟨?_, fun hup => ?_⟩
  · rintro ⟨i, reader, hi, -⟩
    rw [hi]
    rfl
  · obtain ⟨i, hi⟩ := Option.isSome_iff_exists.mp hup
    obtain ⟨reader, hd, hstop, hruns⟩ := h.attended i hi
    exact ⟨i, reader, hi, hd, hstop, fun hworks => (hruns hworks).isAlive⟩

/-- A move `m` other than the last lowering takes the placeholder away exactly if it `disturbs`. -/
theorem isSome_placeholder_move? (hm : c.move? p m = some c') (hs : c.stage.isEnding = false)
    (hup : c.tunnel.placeholder.isSome = true) :
    c'.tunnel.placeholder.isSome = !c.disturbs p m := by
  have hkeeps (htunnel : c'.tunnel.placeholder = c.tunnel.placeholder)
      (hd : c.disturbs p m = false) : c'.tunnel.placeholder.isSome = !c.disturbs p m := by
    rw [htunnel, hup, hd]
    rfl
  cases moved_of_move? hm with
  | start => exact hkeeps rfl rfl
  | request target => exact hkeeps rfl rfl
  | dropHandles => exact hkeeps rfl rfl
  | descriptor i a host => exact hkeeps rfl rfl
  -- It makes no difference whether the engine is the old or the new one.
  | callback b =>
    have hdisturbs : c.disturbs p (.act (.callback b)) = c.establishes p (.act (.callback b)) :=
      Bool.or_false _
    rw [placeholder_callback, hdisturbs]
    cases c.establishes p (.act (.callback b)) with
    | true => rfl
    | false => exact hup
  | advance up c' ha =>
    have hdisturbs : c.disturbs p (.act (.advance up)) = c.failsToRead p (.act (.advance up)) :=
      Bool.false_or _
    have hquiet (hs : ∀ q, c.stage ≠ .blocking q) : c.disturbs p (.act (.advance up)) = false := by
      rw [hdisturbs, failsToRead]
      split
      · next q hq => exact absurd hq (hs q)
      · rfl
    have ha' : Advance p c c' := advance_of_advance? ha
    cases ha' with
    | look target hready htarget stage tunnel =>
      exact hkeeps (by rw [tunnel]) (hquiet (by simp [hready]))
    | adopt q hadopt stage tunnel =>
      have hplaceholder := (Tunnel.keepsPlaceholder_setProfile c.tunnel q).placeholder
      exact hkeeps (by rw [tunnel, hplaceholder]) (hquiet (by simp [hadopt]))
    -- A failure keeps the old placeholder unless the new interface was up already.
    | block q hblock stage tunnel =>
      rw [tunnel, Tunnel.isSome_placeholder_raisePlaceholder, hdisturbs, failsToRead, hblock]
      rcases (c.tunnel.raisePlaceholder p).2 with e | ⟨⟩
      · cases e with
        | drainFailed => rfl
        | noProfile | nothingEstablished | routeRejected | configurationRejected | declined =>
          exact hup
      · rfl
    | lower hlower =>
      rw [hlower] at hs
      cases hs
    | prepare q hprepare stage tunnel =>
      have hplaceholder := (Tunnel.keepsPlaceholder_setProfile c.tunnel q).placeholder
      exact hkeeps (by rw [tunnel, hplaceholder]) (hquiet (by simp [hprepare]))
    | pass hready handling raising ending tunnel =>
      refine hkeeps (by rw [tunnel]) (hquiet fun q hq => ?_)
      rw [hq] at raising
      cases raising.1

/-- As long as a connection is wanted, a placeholder blocks throughout a run exactly if the run is
`undisturbed`. -/
theorem throughout_blocks_iff (hd : c.run? p moves = some d) (hs : c.stage.isEnding = false)
    (hup : c.tunnel.placeholder.isSome = true) (hk : c.tunnel.Kept works)
    (hw : works → ∀ m ∈ moves, m.isHarmless = true) (hpicked : none ∉ c.picked p moves) :
    c.Throughout p (Blocks works) moves ↔ c.undisturbed p moves = true := by
  -- By induction on the moves: each leaves a placeholder exactly if it does not disturb.
  induction moves generalizing c with
  | nil => exact iff_of_true ((blocks_iff hk).mpr hup) rfl
  | cons m rest ih =>
    obtain ⟨c', hm, hrest⟩ := run?_cons.mp hd
    rw [picked_cons hm, List.mem_append, not_or, Option.mem_toList] at hpicked
    have hk' := kept_move? hk (fun hworks => hw hworks m (List.mem_cons_self ..)) hm
    have hs' : c'.stage.isEnding = false := by
      rw [isEnding_move? hm, hs, Bool.false_or]
      exact beq_false_of_ne hpicked.1
    have hup' := isSome_placeholder_move? hm hs hup
    rw [throughout_cons hm, undisturbed_cons hm, Bool.and_eq_true]
    cases hdisturbs : c.disturbs p m with
    | true =>
      rw [hdisturbs] at hup'
      refine iff_of_false (fun h => ?_) (fun h => Bool.false_ne_true h.1)
      rw [(blocks_iff hk').mp h.2.first] at hup'
      cases hup'
    | false =>
      rw [hdisturbs] at hup'
      have hw' : works → ∀ n ∈ rest, n.isHarmless = true :=
        fun hworks n hn => hw hworks n (List.mem_cons_of_mem m hn)
      rw [ih hrest hs' hup' hk' hw' hpicked.2]
      exact and_congr_left fun _ => iff_of_true ((blocks_iff hk).mpr hup) rfl

/-- In every run from `e`, where the loop has raised a placeholder for a switch to `q`, and as long
as `none` is not picked up: a placeholder `Blocks` throughout `future` exactly if the run is
`undisturbed`. That is, no engine gets an interface for what has been recorded, be it the old one
before it has been taken down, and no placeholder comes up that nobody can read. -/
theorem handover_blocked_iff {config : ServiceConfig} {supported : Capabilities}
    {past future : List Move} {q : Profile} {up : Bool}
    (hc : (create config supported).run? p past = some c) (hs : c.stage = .blocking q)
    (hok : (c.tunnel.raisePlaceholder p).2 = .ok ())
    (he : c.move? p (.act (.advance up)) = some e) (hd : e.run? p future = some d)
    (hpicked : none ∉ e.picked p future) :
    e.calls = c.calls ∧ e.current = c.current ∧
    (e.Throughout p (Blocks (∀ m ∈ future, m.isHarmless = true)) future ↔
      e.undisturbed p future = true) := by
  have hkept : c.tunnel.Kept False := kept_run? (Tunnel.kept_start ..) nofun hc
  have he' :
      e = { c with tunnel := (c.tunnel.raisePlaceholder p).1 }.goTo (.releasing (some q)) := by
    rw [move?, step?, advance?, hs] at he
    exact (Option.some.inj he).symm
  have hup : e.tunnel.placeholder.isSome = true := by
    have hraised := c.tunnel.isSome_placeholder_raisePlaceholder p
    rw [hok] at hraised
    rw [he']
    exact hraised
  have hke : e.tunnel.Kept (∀ m ∈ future, m.isHarmless = true) := by
    rw [he']
    exact hkept.raisePlaceholder p fun hne => absurd hok hne
  refine ⟨by rw [he']; rfl, by rw [he']; rfl, ?_⟩
  exact throughout_blocks_iff hd (by rw [he']; rfl) hup hke id hpicked

/-- The engine is up, another connection is wanted, and its placeholder is about to be raised. -/
def untilBlocking : List Move :=
  [.start, .act (.request (some plainProfile))] ++ List.replicate 10 .next ++
    [.act (.request (some plainProfile)), .next, .next]

/-- The engine asks for something while it is taken down, but not for an interface for what it has
recorded. -/
def modestHandover : List Move :=
  [.act (.callback (.request (.addDnsServer "1.1.1.1"))), .next,
    .act (.callback (.request .reestablish)), .next, .act (.callback (.updateStatus 2)), .next]

/-- An engine whose run is `modestHandover` leaves the placeholder until it is down. -/
theorem handover_blocked_modest :
    ∃ c e d : Controller, (create {} {}).run? .agreeing untilBlocking = some c ∧
      c.move? .agreeing .next = some e ∧ e.run? .agreeing modestHandover = some d ∧
      d.stage = .announcing plainProfile ∧ d.calls = e.calls ++ [.takeDown] ∧
      e.Throughout .agreeing (Blocks (∀ m ∈ modestHandover, m.isHarmless = true))
        modestHandover := by
  obtain ⟨c, e, d, hc, he, hd, hs, hok, hpicked, hundisturbed, hstage, hcalls⟩ :
      ∃ c e d : Controller, (create {} {}).run? .agreeing untilBlocking = some c ∧
        c.move? .agreeing .next = some e ∧ e.run? .agreeing modestHandover = some d ∧
        c.stage = .blocking plainProfile ∧ (c.tunnel.raisePlaceholder .agreeing).2 = .ok () ∧
        none ∉ e.picked .agreeing modestHandover ∧
        e.undisturbed .agreeing modestHandover = true ∧
        d.stage = .announcing plainProfile ∧ d.calls = e.calls ++ [.takeDown] :=
    ⟨_, _, _, Option.eq_some_of_isSome (by decide +kernel),
      Option.eq_some_of_isSome (by decide +kernel), Option.eq_some_of_isSome (by decide +kernel),
      by decide +kernel, by decide +kernel, by decide +kernel, by decide +kernel,
      by decide +kernel, by decide +kernel⟩
  obtain ⟨-, -, hiff⟩ := handover_blocked_iff hc hs hok he hd hpicked
  exact ⟨c, e, d, hc, he, hd, hstage, hcalls, hiff.mpr hundisturbed⟩

/-- After `untilBlocking` the old engine gets an interface before it is asked to go down. When it is
down, no placeholder is up any more, although a connection is wanted. -/
theorem handover_unblocked_establish :
    ∃ c e f d : Controller, (create {} {}).run? .agreeing untilBlocking = some c ∧
      c.stage = .blocking plainProfile ∧ c.current = some plainProfile ∧
      (c.tunnel.raisePlaceholder .agreeing).2 = .ok () ∧ c.move? .agreeing .next = some e ∧
      e.move? .agreeing (.act (.callback (.request .establish))) = some f ∧
      f.calls = c.calls ∧ f.current = some plainProfile ∧
      f.run? .agreeing (List.replicate 3 .next) = some d ∧
      d.calls = c.calls ++ [.takeDown] ∧ d.stage = .announcing plainProfile ∧
      d.tunnel.placeholder = none :=
  ⟨_, _, _, _, Option.eq_some_of_isSome (by decide +kernel), by decide +kernel, by decide +kernel,
    by decide +kernel, Option.eq_some_of_isSome (by decide +kernel),
    Option.eq_some_of_isSome (by decide +kernel), by decide +kernel, by decide +kernel,
    Option.eq_some_of_isSome (by decide +kernel), by decide +kernel, by decide +kernel,
    by decide +kernel⟩

end SplitTunnel.Controller
