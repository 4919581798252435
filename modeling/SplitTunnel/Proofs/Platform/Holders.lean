import SplitTunnel.Proofs.Platform.Host

/-!
# Which descriptors are for a reader (`SPEC_FULL.md` §4.4, the drain owns its descriptor)

The descriptor of an interface that comes up is the engine's, unless a reader takes it over. Then it
stays with the reader, and it is closed when the reader is gone.

* `Holder.isDrain`, `Host.isDrained`: the descriptor has been given to a reader, or was to be.
* `Host.isDrained_bringUp`, `Host.isDrained_close`, `Host.isDrained_drainFrom`,
  `Host.isDrained_actAt?`: only taking an interface over changes that.
-/

namespace SplitTunnel

/-- The descriptor has been given to a reader, or was to be. -/
def Holder.isDrain : Holder → Bool
  | engine => false
  | drain _ | nobody => true

/-- Of an interface `x` for a reader only the reader keeps the descriptor open. -/
theorem Interface.exists_drain {x : Interface} (hx : x.holder.isDrain = true)
    (hopen : x.isOpen = true) : ∃ d, x.drain? = some d ∧ d.isAlive = true := by
  obtain ⟨built, holder⟩ := x
  cases holder with
  | engine => cases hx
  | drain d => exact ⟨d, rfl, hopen⟩
  | nobody => cases hopen

/-- The reader `d` keeps the descriptor of `x` open for as long as it is there. -/
theorem Interface.isOpen_eq_isAlive {x : Interface} {d : Drain} (hd : x.drain? = some d) :
    x.isOpen = d.isAlive := by
  obtain ⟨built, holder⟩ := x
  cases holder <;> cases hd
  rfl

namespace Host

variable {p : Platform} {h h' : Host} {i j : Nat} {x : Interface}

/-- An interface for a reader has come up in `h` under the number `i`. -/
def isDrained (h : Host) (i : Nat) : Bool := (h.holder i).isDrain

theorem isDrained_of_drain? {d : Drain} (hd : h.drain? i = some d) : h.isDrained i = true := by
  rw [drain?_eq_holder] at hd
  unfold isDrained
  cases hh : h.holder i <;> rw [hh] at hd <;> first | rfl | cases hd

theorem exists_getElem?_of_drain? {d : Drain} (hd : h.drain? i = some d) :
    ∃ x, h.interfaces[i]? = some x ∧ x.drain? = some d := Option.bind_eq_some_iff.mp hd

/-- If `isDrained` holds of `i`, there is an interface of that number. -/
theorem exists_getElem?_of_isDrained (hi : h.isDrained i = true) :
    ∃ x, h.interfaces[i]? = some x ∧ x.holder.isDrain = true := by
  unfold isDrained holder at hi
  cases hx : h.interfaces[i]? with
  | none =>
    rw [hx] at hi
    cases hi
  | some x =>
    rw [hx] at hi
    exact ⟨x, rfl, hi⟩

theorem isDrained_bringUp (p : Platform) (h : Host) (j : Nat) (requests : List Request) (i : Nat) :
    (h.bringUp p j requests).1.isDrained i = h.isDrained i := by
  unfold isDrained
  rw [holder_bringUp]

theorem isDrained_setHolder (hx : h.interfaces[i]? = some x) {holder : Holder}
    (hh : holder.isDrain = true) (j : Nat) :
    (h.setHolder i holder).isDrained j = (i == j || h.isDrained j) := by
  unfold isDrained Host.holder
  rw [getElem?_setHolder]
  by_cases hij : i = j
  · subst hij
    rw [if_pos rfl, hx, beq_self_eq_true, Bool.true_or]
    exact hh
  · rw [if_neg hij, beq_false_of_ne hij, Bool.false_or]

/-- A reader that gets into another state `d'` holds the descriptor as before. -/
theorem isDrained_setHolder_drain {d : Drain} (hd : h.drain? i = some d) (d' : Drain) (j : Nat) :
    (h.setHolder i (.drain d')).isDrained j = h.isDrained j := by
  obtain ⟨x, hx, -⟩ := exists_getElem?_of_drain? hd
  rw [isDrained_setHolder hx rfl]
  by_cases hij : i = j
  · rw [← hij, isDrained_of_drain? hd, Bool.or_true]
  · rw [beq_false_of_ne hij, Bool.false_or]

theorem isDrained_close (h : Host) (i j : Nat) : (h.close i).isDrained j = h.isDrained j := by
  unfold close
  split
  · next d hd => exact isDrained_setHolder_drain hd d.stop j
  · rfl

theorem isDrained_actAt? {a : Drain.Action} (ha : h.actAt? i a = some h') (j : Nat) :
    h'.isDrained j = h.isDrained j := by
  obtain ⟨d', hd', rfl⟩ := Option.map_eq_some_iff.mp ha
  obtain ⟨d, hd, -⟩ := Option.bind_eq_some_iff.mp hd'
  exact isDrained_setHolder_drain hd d' j

/-- `drainFrom` gives the interface `i` to a reader, also if that cannot be started. -/
theorem isDrained_drainFrom (p : Platform) (hx : h.interfaces[i]? = some x) (mtu j : Nat) :
    (h.drainFrom p i mtu).1.isDrained j = (i == j || h.isDrained j) := by
  unfold drainFrom
  split <;> exact isDrained_setHolder hx rfl j

end Host

end SplitTunnel
