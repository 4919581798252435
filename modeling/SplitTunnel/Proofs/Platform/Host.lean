import SplitTunnel.Platform.Host
import SplitTunnel.Proofs.Drain

/-!
# What a platform's operations leave alone (`SPEC_FULL.md` §6, the platform)

* `Host.Keeps`: the interfaces that were there are as they were. No builder changes one, and
  neither does another interface that comes up.
* `Host.events_bringUp_agreeing`, `Host.bringUp_agreeing`: a platform that takes everything brings
  up what was asked of a builder, and of a new one.
* `Host.getElem?_close`, `Host.drainFrom_agreeing`, `Host.getElem?_actAt?`: what becomes of an
  interface when a reader is stopped, started, or does something.
* `Host.holder`, `Host.holder_bringUp`: who has the descriptor of an interface; another one that
  comes up does not change that.
* `Host.drain?_bringUp`, `Host.drain?_close`, `Host.drain?_drainFrom`, `Host.drain?_actAt?`: which
  interfaces have a reader then.
* `Host.length_bringUp`: there is one interface more exactly if it came up.
-/

namespace SplitTunnel.Host

variable {p : Platform} {h h' h'' : Host} {i j : Nat} {x : Interface}

/-- All interfaces of `h` are in `h'`, as they were. -/
def Keeps (h h' : Host) : Prop := h.interfaces <+: h'.interfaces

theorem Keeps.refl (h : Host) : h.Keeps h := List.prefix_rfl

theorem Keeps.trans (h₁ : h.Keeps h') (h₂ : h'.Keeps h'') : h.Keeps h'' := List.IsPrefix.trans h₁ h₂

theorem Keeps.of_eq (he : h'.interfaces = h.interfaces) : h.Keeps h' :=
  ⟨[], by rw [List.append_nil, he]⟩

theorem Keeps.getElem? (hk : h.Keeps h') (hx : h.interfaces[i]? = some x) :
    h'.interfaces[i]? = some x := by
  obtain ⟨rest, hr⟩ := hk
  rw [← hr]
  rw [List.getElem?_append_left (List.getElem?_eq_some_iff.mp hx).1]
  exact hx

/-! ## Builders -/

/-- A builder `j` that refuses the call `c` notes nothing of it; one that takes it notes it as the
last. -/
theorem submit_cases (p : Platform) (h : Host) (j : Nat) (c : Call) :
    (∃ cause, p.answerTo h.events j c = some cause ∧
      h.submit p j c = (h.log (.called j c (some cause)), some cause)) ∨
    (p.answerTo h.events j c = none ∧
      h.submit p j c = ({ h.log (.called j c none) with
        builders := h.builders.modify j fun b => { b with accepted := b.accepted ++ [c] } },
        none)) := by
  unfold submit
  cases p.answerTo h.events j c with
  | some cause => exact .inl ⟨cause, rfl, rfl⟩
  | none => exact .inr ⟨rfl, rfl⟩

theorem interfaces_submit (p : Platform) (h : Host) (builder : Nat) (c : Call) :
    (h.submit p builder c).1.interfaces = h.interfaces := by
  unfold submit
  dsimp only
  split <;> rfl

theorem interfaces_submitAll (p : Platform) (h : Host) (builder : Nat) (requests : List Request) :
    (h.submitAll p builder requests).1.interfaces = h.interfaces := by
  induction requests generalizing h with
  | nil => rfl
  | cons r rest ih =>
    have hs := interfaces_submit p h builder r.call
    unfold submitAll
    split
    · next h₁ he =>
      rw [he] at hs
      rw [ih, hs]
    · next h₁ cause he =>
      rw [he] at hs
      split
      · rw [ih, hs]
      · exact hs

theorem keeps_establish (p : Platform) (h : Host) (builder : Nat) :
    h.Keeps (h.establish p builder).1 := by
  unfold establish
  dsimp only
  split
  · exact List.prefix_append ..
  · exact .refl h
  · exact .refl h

theorem keeps_bringUp (p : Platform) (h : Host) (builder : Nat) (requests : List Request) :
    h.Keeps (h.bringUp p builder requests).1 := by
  have hs := interfaces_submitAll p h builder requests
  unfold bringUp
  split
  · next h₁ he =>
    rw [he] at hs
    exact (Keeps.of_eq hs).trans (keeps_establish ..)
  · next h₁ e he =>
    rw [he] at hs
    exact .of_eq hs

/-- An interface `i` that `establish` brings up is the last one, and its descriptor is the engine's.
-/
theorem getElem?_establish (hup : h.establish p j = (h', .ok i)) :
    ∃ built, h'.interfaces[i]? = some ⟨built, .engine⟩ := by
  unfold establish at hup
  cases hp : p.establish h.events j with
  | up =>
    rw [hp] at hup
    cases hup
    exact ⟨_, List.getElem?_concat_length⟩
  | declined =>
    rw [hp] at hup
    cases hup
  | failed cause =>
    rw [hp] at hup
    cases hup

theorem getElem?_bringUp {requests : List Request} (hup : h.bringUp p j requests = (h', .ok i)) :
    ∃ built, h'.interfaces[i]? = some ⟨built, .engine⟩ := by
  unfold bringUp at hup
  split at hup
  · exact getElem?_establish hup
  · cases hup

theorem submitAll_ne_drainFailed (p : Platform) (h : Host) (j : Nat) (requests : List Request) :
    (h.submitAll p j requests).2 ≠ .error .drainFailed := by
  induction requests generalizing h with
  | nil => nofun
  | cons r rest ih =>
    unfold submitAll
    split
    · exact ih _
    · split
      · exact ih _
      · cases r <;> nofun

/-- What goes wrong in `bringUp` has nothing to do with a reader. -/
theorem bringUp_ne_drainFailed (p : Platform) (h : Host) (j : Nat) (requests : List Request) :
    (h.bringUp p j requests).2 ≠ .error .drainFailed := by
  have hsubmit := submitAll_ne_drainFailed p h j requests
  unfold bringUp
  split
  · next h₁ he =>
    unfold establish
    cases p.establish h₁.events j <;> nofun
  · next h₁ e he =>
    rw [he] at hsubmit
    rintro ⟨⟩
    exact hsubmit rfl

/-! ## A platform that takes everything -/

theorem answerTo_agreeing (events : List Event) (builder : Nat) (c : Call) :
    Platform.agreeing.answerTo events builder c = none := by
  cases c <;> rfl

theorem submitAll_agreeing (h : Host) (builder : Nat) (requests : List Request) :
    ∃ h', h.submitAll .agreeing builder requests = (h', .ok ()) ∧ h'.interfaces = h.interfaces ∧
      h'.events = h.events ++ requests.map (fun r => .called builder r.call none) ∧
      h'.builders = h.builders.modify builder fun b =>
        { b with accepted := b.accepted ++ requests.map Request.call } := by
  induction requests generalizing h with
  | nil =>
    have hid : (fun b : Builder => { b with accepted := b.accepted ++ [] }) = id := by
      funext b
      simp
    exact ⟨h, rfl, rfl, (List.append_nil _).symm, by rw [List.map_nil, hid, List.modify_id]⟩
  | cons r rest ih =>
    obtain ⟨h₁, hs, hi, he, hb⟩ : ∃ h₁, h.submit .agreeing builder r.call = (h₁, none) ∧
        h₁.interfaces = h.interfaces ∧ h₁.events = h.events ++ [.called builder r.call none] ∧
        h₁.builders = h.builders.modify builder fun b =>
          { b with accepted := b.accepted ++ [r.call] } := by
      rw [submit, answerTo_agreeing]
      exact ⟨_, rfl, rfl, rfl, rfl⟩
    obtain ⟨h₂, hs', hi', he', hb'⟩ := ih h₁
    refine ⟨h₂, by rw [submitAll, hs]; exact hs', hi'.trans hi, ?_, ?_⟩
    · rw [he', he, List.append_assoc]
      rfl
    · rw [hb', hb, List.modify_modify_eq]
      simp [Function.comp_def]

/-- With `Platform.agreeing` a builder takes all `requests`, and its interface comes up. -/
theorem events_bringUp_agreeing (h : Host) (builder : Nat) (requests : List Request) :
    ∃ h', h.bringUp .agreeing builder requests = (h', .ok h.interfaces.length) ∧
      h'.events = h.events ++ (requests.map (fun r => .called builder r.call none) ++
        [.established builder .up]) := by
  obtain ⟨h₁, hs, hi, he, -⟩ := submitAll_agreeing h builder requests
  refine ⟨_, by rw [bringUp, hs, ← hi]; rfl, ?_⟩
  dsimp only [log]
  rw [he, List.append_assoc]
  rfl

/-- With `Platform.agreeing` a new builder takes all `requests`, and its interface comes up with the
next number. -/
theorem bringUp_agreeing (h : Host) (session : String) (requests : List Request) :
    ∃ h', (h.create session).1.bringUp .agreeing (h.create session).2 requests =
        (h', .ok h.interfaces.length) ∧
      h'.interfaces = h.interfaces ++ [⟨⟨session, requests.map Request.call⟩, .engine⟩] := by
  obtain ⟨h₁, hs, hi, -, hb⟩ :=
    submitAll_agreeing (h.create session).1 (h.create session).2 requests
  have hbuilt : h₁.builders.getD (h.create session).2 default =
      ⟨session, requests.map Request.call⟩ := by
    rw [hb, List.getD_eq_getElem?_getD, List.getElem?_modify_eq]
    simp [create, log]
  have hi' : h₁.interfaces = h.interfaces := hi
  refine ⟨_, by rw [bringUp, hs, ← hi']; rfl, ?_⟩
  dsimp only [log]
  rw [hi', hbuilt]

/-! ## Readers -/

theorem getElem?_setHolder (h : Host) (i j : Nat) (holder : Holder) :
    (h.setHolder i holder).interfaces[j]? =
      if i = j then h.interfaces[j]?.map fun x => { x with holder } else h.interfaces[j]? := by
  rw [setHolder, List.getElem?_modify]
  split <;> simp

/-- `close` leaves an interface `x` alone that has no reader. -/
theorem getElem?_close (hx : h.interfaces[j]? = some x) (hd : x.drain? = none) (i : Nat) :
    (h.close i).interfaces[j]? = some x := by
  unfold close
  split
  · next d hi =>
    have hne : i ≠ j := by
      rintro rfl
      rw [drain?, hx] at hi
      simp [hd] at hi
    have hset := getElem?_setHolder h i j (.drain d.stop)
    rw [if_neg hne, hx] at hset
    exact hset
  · exact hx

/-- With `Platform.agreeing` the interface `i` gets a reader. -/
theorem drainFrom_agreeing (hx : h.interfaces[i]? = some x) (mtu : Nat) :
    ∃ h', h.drainFrom .agreeing i mtu = (h', true) ∧
      h'.interfaces[i]? = some { x with holder := .drain (.start (.stream 0 false) mtu) } := by
  refine ⟨_, rfl, ?_⟩
  have hset := getElem?_setHolder h i i (.drain (.start (.stream 0 false) mtu))
  rw [if_pos rfl, hx] at hset
  exact hset

/-- The action `a` happens at a reader: if it is the reader `d` of the interface `j`, it does what
it can do about it, and otherwise the interface is as it was. -/
theorem getElem?_actAt? {a : Drain.Action} {built : Builder} {d : Drain}
    (hx : h.interfaces[j]? = some ⟨built, .drain d⟩) (ha : h.actAt? i a = some h') :
    ∃ d', h'.interfaces[j]? = some ⟨built, .drain d'⟩ ∧ (d' = d ∨ d.act? a = some d') := by
  obtain ⟨d₁, hd₁, rfl⟩ := Option.map_eq_some_iff.mp ha
  obtain ⟨d₀, hd₀, hact⟩ := Option.bind_eq_some_iff.mp hd₁
  by_cases hij : i = j
  · subst hij
    have hd : h.drain? i = some d := by
      rw [drain?, hx]
      rfl
    obtain rfl : d = d₀ := Option.some.inj (hd.symm.trans hd₀)
    refine ⟨d₁, ?_, .inr hact⟩
    rw [getElem?_setHolder, if_pos rfl, hx]
    rfl
  · refine ⟨d, ?_, .inl rfl⟩
    rw [getElem?_setHolder, if_neg hij, hx]

/-! ### Which interfaces have one -/

theorem drain?_congr (he : h'.interfaces = h.interfaces) (i : Nat) : h'.drain? i = h.drain? i := by
  unfold drain?
  rw [he]

/-- Who has the descriptor of the interface `i`. It is the engine's from the time that it comes up.
-/
def holder (h : Host) (i : Nat) : Holder := (h.interfaces[i]?.map Interface.holder).getD .engine

theorem holder_congr (he : h'.interfaces = h.interfaces) (i : Nat) : h'.holder i = h.holder i := by
  unfold holder
  rw [he]

theorem drain?_eq_holder (h : Host) (i : Nat) :
    h.drain? i = match h.holder i with
      | .drain d => some d
      | _ => none := by
  unfold drain? holder
  cases h.interfaces[i]? <;> rfl

theorem holder_establish (p : Platform) (h : Host) (i j : Nat) :
    (h.establish p j).1.holder i = h.holder i := by
  unfold establish
  cases p.establish h.events j with
  | up =>
    show ((h.interfaces ++ _)[i]?.map _).getD _ = _
    by_cases hi : i < h.interfaces.length
    · rw [List.getElem?_append_left hi]
      rfl
    · rw [List.getElem?_append_right (Nat.le_of_not_lt hi), holder,
        List.getElem?_eq_none (Nat.le_of_not_lt hi)]
      cases i - h.interfaces.length <;> rfl
  | declined => rfl
  | failed cause => rfl

theorem holder_bringUp (p : Platform) (h : Host) (j : Nat) (requests : List Request) (i : Nat) :
    (h.bringUp p j requests).1.holder i = h.holder i := by
  have hsubmit := interfaces_submitAll p h j requests
  unfold bringUp
  split
  · next h₁ he =>
    rw [he] at hsubmit
    rw [holder_establish, holder_congr hsubmit]
  · next h₁ e he =>
    rw [he] at hsubmit
    exact holder_congr hsubmit i

/-- An interface that `bringUp` brings up has no reader. -/
theorem drain?_bringUp (p : Platform) (h : Host) (j : Nat) (requests : List Request) (i : Nat) :
    (h.bringUp p j requests).1.drain? i = h.drain? i := by
  rw [drain?_eq_holder, holder_bringUp, drain?_eq_holder]

theorem drain?_setHolder (h : Host) (i j : Nat) (holder : Holder) :
    (h.setHolder i holder).drain? j =
      if i = j then h.interfaces[j]?.bind fun x => Interface.drain? { x with holder }
      else h.drain? j := by
  rw [drain?, getElem?_setHolder]
  split
  · cases h.interfaces[j]? <;> rfl
  · rfl

theorem drain?_log (h : Host) (e : Event) (i : Nat) : (h.log e).drain? i = h.drain? i := rfl

/-- `close` stops the reader of the interface `i`, and no other one. -/
theorem drain?_close (h : Host) (i j : Nat) :
    (h.close i).drain? j = if i = j then (h.drain? j).map Drain.stop else h.drain? j := by
  unfold close
  split
  · next d hd =>
    rw [drain?_log, drain?_setHolder]
    by_cases hij : i = j
    · subst hij
      rw [if_pos rfl, if_pos rfl, hd]
      obtain ⟨x, hx, -⟩ := Option.bind_eq_some_iff.mp hd
      rw [hx]
      rfl
    · rw [if_neg hij, if_neg hij]
  · next hd =>
    by_cases hij : i = j
    · subst hij
      rw [if_pos rfl, hd]
      rfl
    · rw [if_neg hij]

/-- `drainFrom` for the interface `i` leaves the reader of `j` as it is. -/
theorem drain?_drainFrom_of_ne (hij : i ≠ j) (p : Platform) (h : Host) (mtu : Nat) :
    (h.drainFrom p i mtu).1.drain? j = h.drain? j := by
  unfold drainFrom
  split
  · rw [drain?_log, drain?_setHolder, if_neg hij]
  · rw [drain?_log, drain?_setHolder, if_neg hij]

/-- `drainFrom` gives the interface `i` a new reader or, if it cannot be started, none. -/
theorem drain?_drainFrom (hx : h.interfaces[i]? = some x) (p : Platform) (mtu : Nat) :
    (h.drainFrom p i mtu).1.drain? i =
      if (h.drainFrom p i mtu).2 then some (.start (.stream 0 false) mtu) else none := by
  unfold drainFrom
  split
  · rw [drain?_log, drain?_setHolder, if_pos rfl, hx]
    rfl
  · rw [drain?_log, drain?_setHolder, if_pos rfl, hx]
    rfl

theorem drain?_actAt? {a : Drain.Action} (ha : h.actAt? i a = some h') (j : Nat) :
    h'.drain? j = if i = j then (h.drain? j).bind (·.act? a) else h.drain? j := by
  obtain ⟨d, hd, rfl⟩ := Option.map_eq_some_iff.mp ha
  rw [drain?_setHolder]
  by_cases hij : i = j
  · subst hij
    obtain ⟨d₀, hd₀, -⟩ := Option.bind_eq_some_iff.mp hd
    obtain ⟨x, hx, -⟩ := Option.bind_eq_some_iff.mp hd₀
    rw [if_pos rfl, if_pos rfl, hd, hx]
    rfl
  · rw [if_neg hij, if_neg hij]

/-! ## How many interfaces there are -/

theorem length_establish (p : Platform) (h : Host) (j : Nat) :
    (h.establish p j).1.interfaces.length =
      h.interfaces.length + if (h.establish p j).2.isOk then 1 else 0 := by
  unfold establish
  cases p.establish h.events j <;> simp [log, Except.isOk, Except.toBool]

theorem length_bringUp (p : Platform) (h : Host) (j : Nat) (requests : List Request) :
    (h.bringUp p j requests).1.interfaces.length =
      h.interfaces.length + if (h.bringUp p j requests).2.isOk then 1 else 0 := by
  have hsubmit := interfaces_submitAll p h j requests
  unfold bringUp
  split
  · next h₁ he =>
    rw [he] at hsubmit
    have hlen : h₁.interfaces.length = h.interfaces.length := congrArg List.length hsubmit
    rw [length_establish, hlen]
  · next h₁ e he =>
    rw [he] at hsubmit
    exact congrArg List.length hsubmit

theorem length_setHolder (h : Host) (i : Nat) (holder : Holder) :
    (h.setHolder i holder).interfaces.length = h.interfaces.length := List.length_modify ..

theorem length_close (h : Host) (i : Nat) :
    (h.close i).interfaces.length = h.interfaces.length := by
  unfold close
  split
  · exact length_setHolder ..
  · rfl

theorem length_drainFrom (p : Platform) (h : Host) (i mtu : Nat) :
    (h.drainFrom p i mtu).1.interfaces.length = h.interfaces.length := by
  unfold drainFrom
  split <;> exact length_setHolder ..

end SplitTunnel.Host
