import SplitTunnel.Proofs.Platform.Builders

/-!
# What happened at a builder (`SPEC_FULL.md` §6, one builder per session)

A platform that decides about a builder by what happened there answers two builders alike if the
same happened at both, however they are numbered and whatever happened at others.

* `BuilderEvent`, `Host.record`, `Host.recordOf`: all that happened at a builder, and at the builder
  of an interface.
* `Platform.Alike`: two platforms decide alike by what happened at a builder.
* `Host.OnlyAt`, `Host.onlyAt_bringUp`: what is done at one builder is nothing to the others.
* `Host.Twins`, `Host.Twins.bringUp`: the same requests to builders at which the same happened have
  the same outcome, and then the same happened at both again.
-/

namespace SplitTunnel

/-- Something that happened at a builder. -/
inductive BuilderEvent where
  | made (session : String)
  | called (call : Call) (answer : Option Rejection)
  | asked (outcome : Establishment)
deriving DecidableEq, Repr

namespace Event

/-- What happened at `builder`, if the event was there. -/
def at? (builder : Nat) : Event → Option BuilderEvent
  | created i session => if i = builder then some (.made session) else none
  | called i call answer => if i = builder then some (.called call answer) else none
  | established i outcome => if i = builder then some (.asked outcome) else none
  | drained _ | closed _ => none

/-- The builder whose interface came up. -/
def provider? : Event → Option Nat
  | established i .up => some i
  | _ => none

/-- All of `events` that happened at `builder`, oldest first. -/
def record (events : List Event) (builder : Nat) : List BuilderEvent :=
  events.filterMap (at? builder)

end Event

namespace Platform

variable {p q : Platform}

/-- `p` and `q` give the same answers at builders at which the same happened. -/
structure Alike (p q : Platform) : Prop where
  answer : ∀ {events events' : List Event} {i j : Nat},
    Event.record events i = Event.record events' j →
      ∀ c, p.answer events i c = q.answer events' j c
  establish : ∀ {events events' : List Event} {i j : Nat},
    Event.record events i = Event.record events' j → p.establish events i = q.establish events' j

/-- A platform that decides by the record of the builder in question. -/
def ofRecord (answer : List BuilderEvent → Call → Option Rejection)
    (establish : List BuilderEvent → Establishment) : Platform where
  answer events builder := answer (Event.record events builder)
  establish events builder := establish (Event.record events builder)
  startsDrain _ := true

theorem alike_ofRecord (answer : List BuilderEvent → Call → Option Rejection)
    (establish : List BuilderEvent → Establishment) :
    (ofRecord answer establish).Alike (ofRecord answer establish) where
  answer he c := congrArg (fun record => answer record c) he
  establish he := congrArg establish he

theorem Alike.left (h : p.Alike q) : p.Alike p where
  answer he c := (h.answer he c).trans (h.answer rfl c).symm
  establish he := (h.establish he).trans (h.establish rfl).symm

theorem Alike.right (h : p.Alike q) : q.Alike q where
  answer he c := (h.answer rfl c).symm.trans (h.answer he c)
  establish he := (h.establish rfl).symm.trans (h.establish he)

theorem Alike.answerTo (h : p.Alike q) {events events' : List Event} {i j : Nat}
    (he : Event.record events i = Event.record events' j) (c : Call) :
    p.answerTo events i c = q.answerTo events' j c := by
  cases c with
  | setBlocking on => rfl
  | _ => exact h.answer he _

end Platform

namespace Host

variable {p q : Platform} {h h' h₁ h₂ : Host} {i j : Nat} {k l : Option Nat}

/-- All that happened at `builder`, oldest first. -/
def record (h : Host) (builder : Nat) : List BuilderEvent := Event.record h.events builder

/-- The builders of the interfaces of `h`, in order. -/
def providers (h : Host) : List Nat := h.events.filterMap Event.provider?

/-- All that happened at the builder of `interface`. -/
def recordOf (h : Host) (interface : Nat) : List BuilderEvent :=
  (h.providers[interface]?.map h.record).getD []

theorem record_log (h : Host) (e : Event) (i : Nat) :
    (h.log e).record i = h.record i ++ (e.at? i).toList := by
  rw [record, record, log, Event.record, List.filterMap_append]
  cases he : e.at? i <;> simp [Event.record, he]

theorem providers_log (h : Host) (e : Event) :
    (h.log e).providers = h.providers ++ e.provider?.toList := by
  rw [providers, providers, log, List.filterMap_append]
  cases he : e.provider? <;> simp [he]

/-- Nothing happened yet at builders that are still to be made in `h`, and there is an interface for
each that came up. -/
structure Numbered (h : Host) : Prop where
  fresh : ∀ i, h.builders.length ≤ i → h.record i = []
  interfaces : h.providers.length = h.interfaces.length

/-! ## One builder -/

/-- From `h` to `h'` things may have happened at the builder `k`, if one is given, and at no other
one. -/
structure OnlyAt (k : Option Nat) (h h' : Host) : Prop where
  builders : h'.builders.length = h.builders.length
  record : ∀ i, some i ≠ k → h'.record i = h.record i
  providers : ∃ news, h'.providers = h.providers ++ news ∧ ∀ j ∈ news, some j = k
  interfaces : h.providers.length = h.interfaces.length →
    h'.providers.length = h'.interfaces.length

theorem OnlyAt.refl (k : Option Nat) (h : Host) : OnlyAt k h h :=
  ⟨rfl, fun _ _ => rfl, ⟨[], (List.append_nil _).symm, nofun⟩, id⟩

theorem OnlyAt.trans (ha : OnlyAt k h h₁) (hb : OnlyAt k h₁ h₂) : OnlyAt k h h₂ := by
  obtain ⟨news, hnews, hat⟩ := ha.providers
  obtain ⟨more, hmore, hat'⟩ := hb.providers
  refine ⟨hb.builders.trans ha.builders, fun i hi => (hb.record i hi).trans (ha.record i hi),
    ⟨news ++ more, by rw [hmore, hnews, List.append_assoc], fun j hj => ?_⟩,
    hb.interfaces ∘ ha.interfaces⟩
  rcases List.mem_append.mp hj with hj | hj
  · exact hat j hj
  · exact hat' j hj

theorem OnlyAt.getElem?_providers (ha : OnlyAt k h h') (hp : h.providers[i]? = some j) :
    h'.providers[i]? = some j := by
  obtain ⟨news, hnews, -⟩ := ha.providers
  rw [hnews, List.getElem?_append_left (List.getElem?_eq_some_iff.mp hp).1, hp]

theorem Numbered.of_onlyAt (hn : h.Numbered) (ha : OnlyAt k h h')
    (hk : ∀ i ∈ k, i < h.builders.length) : h'.Numbered := by
  refine ⟨fun i hi => ?_, ha.interfaces hn.interfaces⟩
  rw [ha.builders] at hi
  have hne : some i ≠ k := fun hik => Nat.not_lt_of_le hi (hk i hik.symm)
  rw [ha.record i hne, hn.fresh i hi]

/-- If no interface came up, `h'` has the `providers` of `h`. -/
theorem OnlyAt.providers_eq (ha : OnlyAt k h h') (hn : h.Numbered)
    (hlen : h'.interfaces.length = h.interfaces.length) : h'.providers = h.providers := by
  obtain ⟨news, hnews, -⟩ := ha.providers
  have hcount := ha.interfaces hn.interfaces
  rw [hnews, List.length_append, hlen, ← hn.interfaces] at hcount
  rw [hnews, List.length_eq_zero_iff.mp (show news.length = 0 by omega), List.append_nil]

/-- One more event `e` happened. -/
theorem onlyAt_log {e : Event} (builders : h'.builders.length = h.builders.length)
    (events : h'.events = h.events ++ [e]) (he : ∀ i, some i ≠ k → e.at? i = none)
    (hup : ∀ i ∈ e.provider?, some i = k)
    (interfaces : h'.interfaces.length = h.interfaces.length + e.provider?.toList.length) :
    OnlyAt k h h' := by
  have hrecord (i : Nat) : h'.record i = h.record i ++ (e.at? i).toList := by
    rw [← record_log, record, events]
    rfl
  have hproviders : h'.providers = h.providers ++ e.provider?.toList := by
    rw [← providers_log, Host.providers, events]
    rfl
  refine ⟨builders, fun i hi => ?_, ⟨_, hproviders, fun i hi => hup i ?_⟩, fun hlen => ?_⟩
  · rw [hrecord, he i hi, Option.toList_none, List.append_nil]
  · exact Option.mem_toList.mp hi
  · rw [hproviders, List.length_append, hlen, interfaces]

theorem onlyAt_submit (p : Platform) (h : Host) (j : Nat) (c : Call) :
    OnlyAt (some j) h (h.submit p j c).1 := by
  have hat (answer : Option Rejection) (i : Nat) (hi : some i ≠ some j) :
      (Event.called j c answer).at? i = none := if_neg fun hij => hi (congrArg some hij.symm)
  rcases submit_cases p h j c with ⟨cause, -, he⟩ | ⟨-, he⟩ <;> rw [he]
  · exact onlyAt_log rfl rfl (hat _) nofun rfl
  · exact onlyAt_log (List.length_modify ..) rfl (hat _) nofun rfl

theorem onlyAt_submitAll (p : Platform) (h : Host) (j : Nat) (requests : List Request) :
    OnlyAt (some j) h (h.submitAll p j requests).1 := by
  induction requests generalizing h with
  | nil => exact .refl _ h
  | cons r rest ih =>
    have hsubmit := onlyAt_submit p h j r.call
    unfold submitAll
    split
    · next h₁ he =>
      rw [he] at hsubmit
      exact hsubmit.trans (ih h₁)
    · next h₁ cause he =>
      rw [he] at hsubmit
      split
      · exact hsubmit.trans (ih h₁)
      · exact hsubmit

theorem onlyAt_establish (p : Platform) (h : Host) (j : Nat) :
    OnlyAt (some j) h (h.establish p j).1 := by
  have hat (outcome : Establishment) (i : Nat) (hi : some i ≠ some j) :
      (Event.established j outcome).at? i = none := if_neg fun hij => hi (congrArg some hij.symm)
  unfold establish
  cases p.establish h.events j with
  | up => exact onlyAt_log rfl rfl (hat _) (fun i hi => hi.symm) (List.length_append ..)
  | declined | failed => exact onlyAt_log rfl rfl (hat _) nofun rfl

theorem onlyAt_bringUp (p : Platform) (h : Host) (j : Nat) (requests : List Request) :
    OnlyAt (some j) h (h.bringUp p j requests).1 := by
  have hsubmit := onlyAt_submitAll p h j requests
  unfold bringUp
  split
  · next h₁ he =>
    rw [he] at hsubmit
    exact hsubmit.trans (onlyAt_establish p h₁ j)
  · next h₁ e he =>
    rw [he] at hsubmit
    exact hsubmit

/-- The builder of an interface `i` that comes up is `j`, the one that was asked. -/
theorem getElem?_providers_bringUp {requests : List Request}
    (hn : h.providers.length = h.interfaces.length) (hup : h.bringUp p j requests = (h', .ok i)) :
    h'.providers[i]? = some j := by
  have hsubmit := (onlyAt_submitAll p h j requests).interfaces hn
  unfold bringUp at hup
  split at hup
  · next h₁ he =>
    rw [he] at hsubmit
    obtain ⟨hp, rfl, -⟩ := establish_of_ok hup
    have hproviders : h'.providers = h₁.providers ++ [j] := by
      have hlog := providers_log h₁ (.established j .up)
      unfold establish at hup
      rw [hp] at hup
      cases hup
      exact hlog
    rw [hproviders, ← hsubmit, List.getElem?_concat_length]
  · cases hup

/-! ## Descriptors -/

theorem onlyAt_setHolder (h : Host) (i : Nat) (holder : Holder) :
    OnlyAt none h (h.setHolder i holder) :=
  ⟨rfl, fun _ _ => rfl, ⟨[], (List.append_nil _).symm, nofun⟩,
    fun hlen => hlen.trans (length_setHolder h i holder).symm⟩

theorem onlyAt_drainFrom (p : Platform) (h : Host) (i mtu : Nat) :
    OnlyAt none h (h.drainFrom p i mtu).1 := by
  unfold drainFrom
  split <;>
    exact (onlyAt_setHolder h i _).trans (onlyAt_log rfl rfl (fun _ _ => rfl) nofun rfl)

theorem onlyAt_close (h : Host) (i : Nat) : OnlyAt none h (h.close i) := by
  unfold close
  split
  · exact (onlyAt_setHolder h i _).trans (onlyAt_log rfl rfl (fun _ _ => rfl) nofun rfl)
  · exact .refl none h

theorem onlyAt_actAt? {a : Drain.Action} (ha : h.actAt? i a = some h') : OnlyAt none h h' := by
  obtain ⟨d, -, rfl⟩ := Option.map_eq_some_iff.mp ha
  exact onlyAt_setHolder h i _

/-! ## New builders -/

theorem record_create_of_ne (h : Host) (session : String) (hi : i ≠ h.builders.length) :
    (h.create session).1.record i = h.record i := by
  have hlog := record_log h (.created h.builders.length session) i
  rw [Event.at?, if_neg hi.symm, Option.toList_none, List.append_nil] at hlog
  exact hlog

theorem length_create (h : Host) (session : String) :
    (h.create session).1.builders.length = h.builders.length + 1 := List.length_append ..

theorem Numbered.record_create (hn : h.Numbered) (session : String) :
    (h.create session).1.record (h.create session).2 = [.made session] := by
  have hlog := record_log h (.created h.builders.length session) h.builders.length
  rw [hn.fresh _ (Nat.le_refl _), Event.at?, if_pos rfl] at hlog
  exact hlog

theorem providers_create (h : Host) (session : String) :
    (h.create session).1.providers = h.providers := by
  have hlog := providers_log h (.created h.builders.length session)
  exact hlog.trans (List.append_nil _)

theorem Numbered.create (hn : h.Numbered) (session : String) :
    (h.create session).1.Numbered := by
  refine ⟨fun i hi => ?_, ?_⟩
  · rw [length_create] at hi
    rw [record_create_of_ne h session (by omega), hn.fresh i (by omega)]
  · rw [providers_create]
    exact hn.interfaces

/-! ## Two builders -/

/-- The same happened at `i` in `h` and at `j` in `h'`, and both were made. -/
structure Twins (h : Host) (i : Nat) (h' : Host) (j : Nat) : Prop where
  left : i < h.builders.length
  right : j < h'.builders.length
  record : h.record i = h'.record j

/-- What happens at other builders `k` and `l` is nothing to `i` and `j`. -/
theorem Twins.of_onlyAt (ht : Twins h i h' j) (ha : OnlyAt k h h₁) (hi : some i ≠ k)
    (hb : OnlyAt l h' h₂) (hj : some j ≠ l) : Twins h₁ i h₂ j := by
  refine ⟨?_, ?_, ?_⟩
  · rw [ha.builders]
    exact ht.left
  · rw [hb.builders]
    exact ht.right
  · rw [ha.record i hi, hb.record j hj, ht.record]

theorem Twins.create (ht : Twins h i h' j) (session session' : String) :
    Twins (h.create session).1 i (h'.create session').1 j := by
  refine ⟨?_, ?_, ?_⟩
  · rw [length_create]
    exact Nat.lt_succ_of_lt ht.left
  · rw [length_create]
    exact Nat.lt_succ_of_lt ht.right
  · rw [record_create_of_ne h session (Nat.ne_of_lt ht.left),
      record_create_of_ne h' session' (Nat.ne_of_lt ht.right), ht.record]

theorem twins_create (hn : h.Numbered) (hn' : h'.Numbered) (session : String) :
    Twins (h.create session).1 (h.create session).2
      (h'.create session).1 (h'.create session).2 := by
  refine ⟨?_, ?_, ?_⟩
  · rw [length_create]
    exact Nat.lt_succ_self _
  · rw [length_create]
    exact Nat.lt_succ_self _
  · rw [hn.record_create, hn'.record_create]

/-- The same call `c` has the same answer at both builders. -/
theorem Twins.submit (ht : Twins h i h' j) (ha : p.Alike q) (c : Call) :
    (h.submit p i c).2 = (h'.submit q j c).2 ∧
      Twins (h.submit p i c).1 i (h'.submit q j c).1 j := by
  have hanswer := ha.answerTo ht.record c
  have hrecord (answer : Option Rejection) :
      (h.log (.called i c answer)).record i = (h'.log (.called j c answer)).record j := by
    rw [record_log, record_log, ht.record, Event.at?, Event.at?, if_pos rfl, if_pos rfl]
  rcases submit_cases p h i c with ⟨cause, hp, he⟩ | ⟨hp, he⟩ <;>
    rcases submit_cases q h' j c with ⟨cause', hq, he'⟩ | ⟨hq, he'⟩ <;>
    rw [hp, hq] at hanswer <;> cases hanswer <;> rw [he, he']
  · exact ⟨rfl, ht.left, ht.right, hrecord _⟩
  · refine ⟨rfl, ?_, ?_, hrecord none⟩
    · exact Nat.lt_of_lt_of_eq ht.left (List.length_modify ..).symm
    · exact Nat.lt_of_lt_of_eq ht.right (List.length_modify ..).symm

theorem Twins.submitAll (ht : Twins h i h' j) (ha : p.Alike q) (requests : List Request) :
    (h.submitAll p i requests).2 = (h'.submitAll q j requests).2 ∧
      Twins (h.submitAll p i requests).1 i (h'.submitAll q j requests).1 j := by
  induction requests generalizing h h' with
  | nil => exact ⟨rfl, ht⟩
  | cons r rest ih =>
    obtain ⟨hanswer, hsubmit⟩ := ht.submit ha r.call
    rw [Host.submitAll, Host.submitAll]
    rcases he : h.submit p i r.call with ⟨h₁, answer⟩
    rcases he' : h'.submit q j r.call with ⟨h₂, answer'⟩
    rw [he, he'] at hanswer hsubmit
    obtain rfl : answer = answer' := hanswer
    cases answer with
    | none => exact ih hsubmit
    | some cause =>
      dsimp only
      split
      · exact ih hsubmit
      · exact ⟨rfl, hsubmit⟩

theorem Twins.establish (ht : Twins h i h' j) (ha : p.Alike q) :
    (h.establish p i).2.map (fun _ => ()) = (h'.establish q j).2.map (fun _ => ()) ∧
      Twins (h.establish p i).1 i (h'.establish q j).1 j := by
  have hrecord (outcome : Establishment) : (h.log (.established i outcome)).record i =
      (h'.log (.established j outcome)).record j := by
    rw [record_log, record_log, ht.record, Event.at?, Event.at?, if_pos rfl, if_pos rfl]
  rw [Host.establish, Host.establish, ha.establish ht.record]
  cases q.establish h'.events j <;> exact ⟨rfl, ht.left, ht.right, hrecord _⟩

/-- The same `requests` have the same outcome at both builders but for the number of the interface,
which is that of an interface of the builder that was asked. -/
theorem Twins.bringUp (ht : Twins h i h' j) (hn : h.Numbered) (hn' : h'.Numbered)
    (ha : p.Alike q) (requests : List Request) :
    ∃ h₁ h₂, OnlyAt (some i) h h₁ ∧ OnlyAt (some j) h' h₂ ∧ Twins h₁ i h₂ j ∧
      ((∃ e, h.bringUp p i requests = (h₁, .error e) ∧
          h'.bringUp q j requests = (h₂, .error e)) ∨
        ∃ m n, h.bringUp p i requests = (h₁, .ok m) ∧ h'.bringUp q j requests = (h₂, .ok n) ∧
          h₁.providers[m]? = some i ∧ h₂.providers[n]? = some j) := by
  have hleft := onlyAt_bringUp p h i requests
  have hright := onlyAt_bringUp q h' j requests
  refine ⟨_, _, hleft, hright, ?_⟩
  obtain ⟨hanswer, hsubmit⟩ := ht.submitAll ha requests
  have hm {h₁ : Host} {m : Nat} (hup : h.bringUp p i requests = (h₁, .ok m)) :
      h₁.providers[m]? = some i := getElem?_providers_bringUp hn.interfaces hup
  have hk {h₂ : Host} {n : Nat} (hup : h'.bringUp q j requests = (h₂, .ok n)) :
      h₂.providers[n]? = some j := getElem?_providers_bringUp hn'.interfaces hup
  unfold Host.bringUp at hm hk ⊢
  rcases he : h.submitAll p i requests with ⟨h₁, answer⟩
  rcases he' : h'.submitAll q j requests with ⟨h₂, answer'⟩
  rw [he, he'] at hanswer hsubmit
  rw [he] at hm
  rw [he'] at hk
  obtain rfl : answer = answer' := hanswer
  cases answer with
  | error e => exact ⟨hsubmit, .inl ⟨e, rfl, rfl⟩⟩
  | ok =>
    obtain ⟨hout, htwins⟩ := hsubmit.establish ha
    refine ⟨htwins, ?_⟩
    dsimp only at hm hk ⊢
    rcases ho : h₁.establish p i with ⟨h₃, e | m⟩ <;>
      rcases ho' : h₂.establish q j with ⟨h₄, e' | n⟩ <;> rw [ho, ho'] at hout <;> cases hout
    · exact .inl ⟨e, rfl, rfl⟩
    · exact .inr ⟨m, n, rfl, rfl, hm ho, hk ho'⟩

end Host

end SplitTunnel
