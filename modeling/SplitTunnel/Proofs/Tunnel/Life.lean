import SplitTunnel.Proofs.Platform.Holders
import SplitTunnel.Proofs.Tunnel.Draft
import SplitTunnel.Proofs.Tunnel.Readers

/-!
# The life of a tunnel (`SPEC_FULL.md` §4.3, and §5 for the drain beside it)

Between its operations something may happen at the descriptors of a tunnel's interfaces.

* `Occurrence`, `Tunnel.occur`, `Tunnel.live`: operations, and what happens in between.
* `Tunnel.raises?`, `Tunnel.raised`: the placeholders that come up.
* `Tunnel.Lives`: what holds at any time of the session's builder, of the readers and of the
  interfaces that were meant for one. `Tunnel.lives_live` is that it does.
-/

namespace SplitTunnel

/-- Something that happens to a `Tunnel`. -/
inductive Occurrence where
  | operation (p : Platform) (o : Operation)
  /-- At the descriptor of `interface`. -/
  | descriptor (interface : Nat) (a : Drain.Action)

/-- Nothing that makes a descriptor useless. -/
def Occurrence.isHarmless : Occurrence → Bool
  | operation .. => true
  | descriptor _ a => a.isTraffic

namespace Tunnel

/-- `t` after something that happens, if it can happen. Nobody asks a reader to stop but its owner,
in an operation. -/
def occur (t : Tunnel) : Occurrence → Tunnel
  | .operation p o => (t.perform p o).1
  | .descriptor i a =>
    if a = .requestStop then t
    else
      match t.host.actAt? i a with
      | some host => { t with host }
      | none => t

/-- `t` after all that happens, in order. -/
def live (t : Tunnel) : List Occurrence → Tunnel
  | [] => t
  | x :: rest => (t.occur x).live rest

/-- The placeholder whose interface comes up in `t`, whether or not it can be read. -/
def raises? (t : Tunnel) : Occurrence → Option Nat
  | .operation p .raisePlaceholder =>
    if t.hasNew (t.raisePlaceholder p).1 then some t.host.interfaces.length else none
  | _ => none

/-- The placeholders whose interfaces come up, in order. -/
def raised (t : Tunnel) : List Occurrence → List Nat
  | [] => []
  | x :: rest => (t.raises? x).toList ++ (t.occur x).raised rest

variable {p : Platform} {t : Tunnel} {works : Prop}

/-- At the descriptor of `i` nothing happens, or its reader does something. -/
theorem occur_descriptor_cases (t : Tunnel) (i : Nat) (a : Drain.Action) :
    t.occur (.descriptor i a) = t ∨ a ≠ .requestStop ∧ ∃ host, t.host.actAt? i a = some host ∧
      t.occur (.descriptor i a) = { t with host } := by
  simp only [occur]
  split
  · exact .inl rfl
  · next ha =>
    cases hh : t.host.actAt? i a with
    | none => exact .inl rfl
    | some host => exact .inr ⟨ha, host, rfl, rfl⟩

/-! ## Readers -/

theorem fst_perform_setProfile (p : Platform) (t : Tunnel) (v : Profile) :
    (t.perform p (.setProfile v)).1 = (t.setProfile v).1 := by
  rcases he : t.setProfile v with ⟨t', _ | _⟩ <;> simp only [perform, he]

theorem fst_perform_raisePlaceholder (p : Platform) (t : Tunnel) :
    (t.perform p .raisePlaceholder).1 = (t.raisePlaceholder p).1 := by
  rcases he : t.raisePlaceholder p with ⟨t', _ | _⟩ <;> simp only [perform, he]

theorem Kept.perform (h : t.Kept works) (p : Platform) (o : Operation) :
    (t.perform p o).1.Kept works := by
  cases o with
  | request r => exact h.serve p r
  | setProfile v =>
    rw [fst_perform_setProfile]
    exact h.setProfile v
  | raisePlaceholder =>
    rw [fst_perform_raisePlaceholder]
    exact h.raisePlaceholder p fun _ => id
  | lowerPlaceholder => exact h.lowerPlaceholder

/-! ## Interfaces for readers -/

theorem isDrained_lowerPlaceholder (t : Tunnel) (i : Nat) :
    t.lowerPlaceholder.host.isDrained i = t.host.isDrained i := by
  unfold lowerPlaceholder
  split
  · rfl
  · exact Host.isDrained_close ..

theorem isDrained_commit (t : Tunnel) (established : Recording) (i : Nat) :
    (t.commit established).host.isDrained i = t.host.isDrained i := by
  unfold commit
  split
  · exact isDrained_lowerPlaceholder t i
  · exact isDrained_lowerPlaceholder _ i

/-- The interfaces that `serve` brings up for the engine are not meant for readers. -/
theorem isDrained_serve (p : Platform) (t : Tunnel) (r : EngineRequest) (i : Nat) :
    (t.serve p r).1.host.isDrained i = t.host.isDrained i := by
  have hbring {h₀ host : Host} {j : Nat} {requests : List Request}
      {answer : Except EstablishError Nat} (hinterfaces : h₀.interfaces = t.host.interfaces)
      (hup : h₀.bringUp p j requests = (host, answer)) :
      host.isDrained i = t.host.isDrained i := by
    have hsame := Host.isDrained_bringUp p h₀ j requests i
    rw [hup] at hsame
    rw [hsame, Host.isDrained, Host.holder_congr hinterfaces]
    rfl
  by_cases hestablish : r = .establish
  · subst hestablish
    rcases establish_cases p t with ⟨-, he⟩ | ⟨s, host, -, ⟨e, hup, he⟩ | ⟨j, hup, he⟩⟩ <;>
      rw [serve, he]
    · rfl
    · exact hbring rfl hup
    · exact (isDrained_commit _ _ i).trans (hbring rfl hup)
  by_cases hreestablish : r = .reestablish
  · subst hreestablish
    rcases reestablish_cases p t with ⟨e, he⟩ | ⟨s, r, host, answer, -, -, hup, he⟩ <;>
      rw [serve, he, fst_came]
    exact hbring (by rfl) hup
  rcases serve_cases p t hestablish hreestablish with ⟨-, he⟩ | ⟨-, -, -, he⟩ | ⟨c, -, -, -, he⟩ <;>
    rw [he]
  · rcases record_cases t r.note with ⟨-, he⟩ | ⟨s, -, he⟩ <;> rw [he] <;> rfl
  · rcases tell_cases p t c r.note with ⟨-, he⟩ | ⟨s, host, -, hhost, hcases⟩
    · rw [he]
      rfl
    · have hinterfaces : host.interfaces = t.host.interfaces :=
        hhost ▸ Host.interfaces_submit p t.host s.builder c
      rcases hcases with ⟨cause, -, -, he⟩ | ⟨-, -, he⟩ <;> rw [he] <;>
        exact congrArg Holder.isDrain (Host.holder_congr hinterfaces i)

theorem isDrained_setProfile (t : Tunnel) (v : Profile) (i : Nat) :
    (t.setProfile v).1.host.isDrained i = t.host.isDrained i := by
  cases hstart : Recording.start v t.owningApp with
  | ok initial =>
    unfold setProfile
    rw [hstart]
    rfl
  | error e => rw [setProfile_of_error hstart]

theorem isDrained_raisePlaceholder (p : Platform) (t : Tunnel) (i : Nat) :
    (t.raisePlaceholder p).1.host.isDrained i =
      (t.host.isDrained i ||
        (if t.hasNew (t.raisePlaceholder p).1 then some t.host.interfaces.length else none) ==
          some i) := by
  rcases raisePlaceholder_cases p t with ⟨-, he⟩ | ⟨s, host, answer, hs, hup, hcases⟩
  · simp [he, hasNew]
  have hsame : host.isDrained i = t.host.isDrained i := by
    have hsame := Host.isDrained_bringUp p (t.host.create s.profile.name).1
      (t.host.create s.profile.name).2 (Placeholder.requests s.initial t.capabilities) i
    rw [hup] at hsame
    exact hsame
  rcases hcases with ⟨e, rfl, he⟩ | ⟨j, t₁, host', rfl, hcommit, hdrained⟩
  · rw [he, hasNew_of_bringUp_error hup rfl]
    simpa using hsame
  obtain ⟨told, -, -, -, hj, -⟩ :=
    Host.bringUp_of_ok (t.host.getElem?_create_self s.profile.name) hup
  have hj' : j = t.host.interfaces.length := hj
  obtain ⟨built, hnew⟩ := Host.getElem?_bringUp hup
  have hx : t₁.host.interfaces[j]? = some ⟨built, .engine⟩ :=
    hcommit ▸ getElem?_commit (t := { t with host }) hnew rfl _
  have hdrain := Host.isDrained_drainFrom p hx (Placeholder.recording s.initial).mtu.toNat i
  -- Whether or not the reader starts, the interface was meant for one.
  rcases hdrained with ⟨hd, he⟩ | ⟨hd, he⟩
  all_goals
    rw [hd, ← hcommit, isDrained_commit, hsame] at hdrain
    rw [he, hasNew_of_lt (lt_length_of_commit hup hcommit hd), if_pos rfl, ← hj']
    refine hdrain.trans ?_
    rw [Bool.or_comm]
    rfl

theorem isDrained_occur (t : Tunnel) (x : Occurrence) (i : Nat) :
    (t.occur x).host.isDrained i = (t.host.isDrained i || t.raises? x == some i) := by
  cases x with
  | operation p o =>
    cases o with
    | request r => simp [occur, perform, raises?, isDrained_serve]
    | setProfile v => simp [occur, fst_perform_setProfile, raises?, isDrained_setProfile]
    | raisePlaceholder =>
      rw [occur, fst_perform_raisePlaceholder]
      exact isDrained_raisePlaceholder p t i
    | lowerPlaceholder => simp [occur, perform, raises?, isDrained_lowerPlaceholder]
  | descriptor j a =>
    rcases occur_descriptor_cases t j a with he | ⟨-, host, hh, he⟩ <;> rw [he]
    · simp [raises?]
    · simp [raises?, Host.isDrained_actAt? hh]

/-! ## At any time -/

/-- The session of `t` has a builder, the placeholder is read and no other interface is, and the
interfaces for readers are `raised`, the placeholders that came up. -/
structure Lives (works : Prop) (raised : List Nat) (t : Tunnel) : Prop where
  drafted : ∃ d, t.DraftedAs d
  kept : t.Kept works
  drained : ∀ i, t.host.isDrained i = true ↔ i ∈ raised

theorem Lives.exists_builder {raised : List Nat} (h : t.Lives works raised) {s : Session}
    (hs : t.session = some s) :
    ∃ accepted, t.host.builders[s.builder]? = some ⟨s.profile.name, accepted⟩ := by
  obtain ⟨d, hd⟩ := h.drafted
  obtain ⟨accepted, hb, -⟩ := (hd s hs).built
  exact ⟨accepted, hb⟩

theorem lives_start (allowed supported : Capabilities) (owningApp : String) :
    (start allowed supported owningApp).Lives works [] :=
  ⟨⟨{}, .of_none rfl⟩, kept_start .., fun _ => ⟨nofun, nofun⟩⟩

theorem Lives.occur {raised : List Nat} (h : t.Lives works raised) {x : Occurrence}
    (hw : works → x.isHarmless = true) :
    (t.occur x).Lives works (raised ++ (t.raises? x).toList) := by
  have hdrained (i : Nat) : (t.occur x).host.isDrained i = true ↔
      i ∈ raised ++ (t.raises? x).toList := by
    rw [isDrained_occur, Bool.or_eq_true, h.drained, List.mem_append, Option.mem_toList, beq_iff_eq]
  obtain ⟨d, hd⟩ := h.drafted
  cases x with
  | operation p o => exact ⟨⟨_, hd.perform p o⟩, h.kept.perform p o, hdrained⟩
  | descriptor i a =>
    rcases occur_descriptor_cases t i a with he | ⟨ha, host, hh, he⟩
    · rw [he] at hdrained ⊢
      exact ⟨⟨d, hd⟩, h.kept, hdrained⟩
    · rw [he] at hdrained ⊢
      refine ⟨⟨d, fun s hs => (hd s hs).of_builder fun b hb => ?_⟩, h.kept.actAt? ha hw hh,
        hdrained⟩
      obtain ⟨reader, -, rfl⟩ := Option.map_eq_some_iff.mp hh
      exact hb

theorem Lives.live {past : List Nat} (h : t.Lives works past) {future : List Occurrence}
    (hw : works → ∀ x ∈ future, x.isHarmless = true) :
    (t.live future).Lives works (past ++ t.raised future) := by
  induction future generalizing t past with
  | nil => simpa [raised, Tunnel.live] using h
  | cons x rest ih =>
    have hx := h.occur fun hworks => hw hworks x (List.mem_cons_self ..)
    rw [raised, ← List.append_assoc]
    exact ih hx fun hworks y hy => hw hworks y (List.mem_cons_of_mem x hy)

/-- Whatever `past` has happened to a tunnel, and its placeholder is read if that was harmless. -/
theorem lives_live (allowed supported : Capabilities) (owningApp : String)
    (past : List Occurrence) :
    let first := start allowed supported owningApp
    (first.live past).Lives (∀ x ∈ past, x.isHarmless = true) (first.raised past) := by
  intro first
  have hfirst : first.Lives (∀ x ∈ past, x.isHarmless = true) [] :=
    lives_start allowed supported owningApp
  exact hfirst.live id

/-- A profile is set, and a placeholder for it is up. -/
def blocked : List Occurrence :=
  [.operation .agreeing (.setProfile {}), .operation .agreeing .raisePlaceholder]

end Tunnel

end SplitTunnel
