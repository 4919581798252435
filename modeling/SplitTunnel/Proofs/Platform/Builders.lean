import SplitTunnel.Proofs.Platform.Servers

/-!
# What a builder takes, and what is noted of it (`SPEC_FULL.md` §4.2, the builder)

* `Platform.refusing`: a platform that takes everything but one call.
* `Event.taken?`, `Request.Granted`: a call that a builder took, and the calls that it takes of
  requests when nothing goes wrong.
* `Host.Told`: a builder was told something, and nothing else changed what builders have taken.
* `Put`, `Put.Ends`, `Host.submitAll_puts`: requests as they are put to a builder one by one, and
  how that ends.
* `Host.bringUp_puts`: requests for an interface, and the platform's turn after them.
* `Host.told_submitAll`, `Host.told_bringUp`, `Host.bringUp_of_ok`: what the builder takes of them,
  and an interface for them.
* `Host.getElem?_create`, `Host.getElem?_bringUp_create`: a new builder leaves the others alone.
-/

namespace SplitTunnel

/-- A platform that takes everything but the call `c`. -/
def Platform.refusing (c : Call) (cause : Rejection) : Platform :=
  { agreeing with answer := fun _ _ c' => if c' = c then some cause else none }

/-- The call that a builder took, if that is what happened. -/
def Event.taken? : Event → Option Call
  | .called _ c none => some c
  | _ => none

@[simp] theorem Event.taken?_called_none (builder : Nat) (c : Call) :
    taken? (.called builder c none) = some c := rfl

@[simp] theorem Event.taken?_called_some (builder : Nat) (c : Call) (cause : Rejection) :
    taken? (.called builder c (some cause)) = none := rfl

@[simp] theorem Event.taken?_established (builder : Nat) (outcome : Establishment) :
    taken? (.established builder outcome) = none := rfl

/-- `Granted requests calls`: a builder takes `calls` of `requests`, in order, when nothing goes
wrong: a request is taken, or its rejection is tolerated. -/
inductive Request.Granted : List Request → List Call → Prop
  | nil : Granted [] []
  | take (r : Request) {rest : List Request} {calls : List Call} (h : Granted rest calls) :
    Granted (r :: rest) (r.call :: calls)
  | pass {r : Request} {cause : Rejection} (ht : r.tolerates cause = true) {rest : List Request}
    {calls : List Call} (h : Granted rest calls) : Granted (r :: rest) calls

theorem Request.Granted.mem {requests : List Request} {calls : List Call} {c : Call}
    (h : Granted requests calls) (hc : c ∈ calls) : ∃ r ∈ requests, c = r.call := by
  induction h with
  | nil => cases hc
  | take r h ih =>
    rcases List.mem_cons.mp hc with rfl | hc
    · exact ⟨r, List.mem_cons_self .., rfl⟩
    · obtain ⟨r', hr', he⟩ := ih hc
      exact ⟨r', List.mem_cons_of_mem _ hr', he⟩
  | pass ht h ih =>
    obtain ⟨r', hr', he⟩ := ih hc
    exact ⟨r', List.mem_cons_of_mem _ hr', he⟩

/-- A `request` that was put to a builder, and why the builder refused it, if it did. -/
structure Put where
  request : Request
  refusal : Option Rejection

namespace Put

/-- The builder took the request of `x`, or its rejection is tolerated. -/
def Passes (x : Put) : Prop := ∀ cause, x.refusal = some cause → x.request.tolerates cause = true

theorem passes_none (r : Request) : Passes ⟨r, none⟩ := by
  intro cause hcause
  cases hcause

theorem passes_some {r : Request} {cause : Rejection} (h : r.tolerates cause = true) :
    Passes ⟨r, some cause⟩ := by
  intro cause' hcause
  cases hcause
  exact h

/-- What the host notes when `x` is put to the builder `j`. -/
def event (j : Nat) (x : Put) : Event := .called j x.request.call x.refusal

/-- Each answer is that of `p`, by all that happened before. -/
def AnsweredBy (p : Platform) (j : Nat) : List Event → List Put → Prop
  | _, [] => True
  | events, x :: rest =>
    x.refusal = p.answerTo events j x.request.call ∧ AnsweredBy p j (events ++ [x.event j]) rest

/-- `Ends requests puts result`: putting `requests` ends with `result`: all are put and pass, or the
last of `puts` is refused, and that is the error. -/
inductive Ends : List Request → List Put → Except EstablishError Unit → Prop
  | all {requests : List Request} {puts : List Put} (hall : puts.map request = requests)
    (hpass : ∀ x ∈ puts, x.Passes) : Ends requests puts (.ok ())
  | refused {before : List Put} {r : Request} {cause : Rejection} {rest : List Request}
    (hpass : ∀ x ∈ before, x.Passes) (hr : r.tolerates cause = false) :
    Ends (before.map request ++ r :: rest) (before ++ [⟨r, some cause⟩]) (.error (r.failure cause))

variable {requests : List Request} {puts : List Put} {result : Except EstablishError Unit} {x : Put}

theorem Ends.cons (h : Ends requests puts result) (hx : x.Passes) :
    Ends (x.request :: requests) (x :: puts) result := by
  cases h with
  | all hall hpass =>
    exact .all (congrArg (x.request :: ·) hall) (List.forall_mem_cons.mpr ⟨hx, hpass⟩)
  | @refused before r cause rest hpass hr =>
    have hall : ∀ y ∈ x :: before, y.Passes := List.forall_mem_cons.mpr ⟨hx, hpass⟩
    exact .refused hall hr

theorem Ends.request_prefix (h : Ends requests puts result) : puts.map request <+: requests := by
  cases h with
  | all hall hpass => exact hall ▸ List.prefix_rfl
  | @refused before r cause rest hpass hr => exact ⟨rest, by simp⟩

theorem Ends.request_mem (h : Ends requests puts result) (hx : x ∈ puts) :
    x.request ∈ requests := h.request_prefix.subset (List.mem_map_of_mem hx)

theorem Ends.of_ok (h : Ends requests puts result) (hok : result = .ok ()) :
    puts.map request = requests ∧ ∀ x ∈ puts, x.Passes := by
  cases h with
  | all hall hpass => exact ⟨hall, hpass⟩
  | refused hpass hr => cases hok

end Put

theorem Request.Granted.of_puts {puts : List Put} {j : Nat} (h : ∀ x ∈ puts, x.Passes) :
    Granted (puts.map Put.request) ((puts.map (Put.event j)).filterMap Event.taken?) := by
  induction puts with
  | nil => exact .nil
  | cons x rest ih =>
    obtain ⟨hx, hrest⟩ := List.forall_mem_cons.mp h
    obtain ⟨r, _ | cause⟩ := x
    · exact .take r (ih hrest)
    · exact .pass (hx cause rfl) (ih hrest)

namespace Host

variable {p : Platform} {h h' h'' : Host} {i j : Nat} {news more : List Event}

/-- Builder `j` was told something between `h` and `h'`: `news` happened, and what the builder took
of it is noted. -/
structure Told (j : Nat) (h h' : Host) (news : List Event) : Prop where
  events : h'.events = h.events ++ news
  builders : h'.builders = h.builders.modify j fun b =>
    { b with accepted := b.accepted ++ news.filterMap Event.taken? }

theorem Told.of_builders (events : h'.events = h.events ++ news) (hb : h'.builders = h.builders)
    (hnews : news.filterMap Event.taken? = []) : Told j h h' news := by
  refine ⟨events, ?_⟩
  have hid : (fun b : Builder => { b with accepted := b.accepted ++ [] }) = id := by
    funext b
    simp
  rw [hb, hnews, hid, List.modify_id]

theorem Told.trans (h₁ : Told j h h' news) (h₂ : Told j h' h'' more) :
    Told j h h'' (news ++ more) := by
  refine ⟨by rw [h₂.events, h₁.events, List.append_assoc], ?_⟩
  rw [h₂.builders, h₁.builders, List.modify_modify_eq]
  simp [Function.comp_def]

theorem Told.getElem?_self (ht : Told j h h' news) {b : Builder} (hb : h.builders[j]? = some b) :
    h'.builders[j]? = some { b with accepted := b.accepted ++ news.filterMap Event.taken? } := by
  rw [ht.builders, List.getElem?_modify_eq, hb]
  rfl

/-- What builder `j` is told is nothing to another builder `i`. -/
theorem Told.getElem?_of_ne (ht : Told j h h' news) (hij : j ≠ i) :
    h'.builders[i]? = h.builders[i]? := by
  rw [ht.builders, List.getElem?_modify]
  simp [hij]

theorem snd_submit (p : Platform) (h : Host) (j : Nat) (c : Call) :
    (h.submit p j c).2 = p.answerTo h.events j c := by
  rcases submit_cases p h j c with ⟨cause, hanswer, he⟩ | ⟨hanswer, he⟩ <;> rw [he, hanswer]

theorem told_submit (p : Platform) (h : Host) (j : Nat) (c : Call) :
    Told j h (h.submit p j c).1 [.called j c (h.submit p j c).2] := by
  rcases submit_cases p h j c with ⟨cause, -, he⟩ | ⟨-, he⟩ <;> rw [he]
  · exact .of_builders rfl rfl rfl
  · exact ⟨rfl, rfl⟩

/-! ## Requests in order -/

/-- `submitAll` puts `requests` to the builder `j` one by one, up to the first rejection that is not
tolerated. -/
theorem submitAll_puts (p : Platform) (h : Host) (j : Nat) (requests : List Request) :
    ∃ puts : List Put, Told j h (h.submitAll p j requests).1 (puts.map (Put.event j)) ∧
      Put.AnsweredBy p j h.events puts ∧
      Put.Ends requests puts (h.submitAll p j requests).2 := by
  induction requests generalizing h with
  | nil => exact ⟨[], .of_builders (List.append_nil _).symm rfl rfl, trivial, .all rfl nofun⟩
  | cons r rest ih =>
    have hsubmit := told_submit p h j r.call
    have hanswer := snd_submit p h j r.call
    -- what is put after a request that passes comes after it
    have hnext {h₁ : Host} {answer : Option Rejection} (hpass : Put.Passes ⟨r, answer⟩)
        (htold : Told j h h₁ [.called j r.call answer])
        (hanswered : answer = p.answerTo h.events j r.call) :
        ∃ puts : List Put, Told j h (h₁.submitAll p j rest).1 (puts.map (Put.event j)) ∧
          Put.AnsweredBy p j h.events puts ∧
          Put.Ends (r :: rest) puts (h₁.submitAll p j rest).2 := by
      obtain ⟨puts, htold', hanswered', hends⟩ := ih h₁
      rw [htold.events] at hanswered'
      exact ⟨⟨r, answer⟩ :: puts, htold.trans htold', ⟨hanswered, hanswered'⟩, hends.cons hpass⟩
    unfold submitAll
    split
    · next h₁ he =>
      rw [he] at hsubmit hanswer
      exact hnext (Put.passes_none r) hsubmit hanswer
    · next h₁ cause he =>
      rw [he] at hsubmit hanswer
      split
      · next ht => exact hnext (Put.passes_some ht) hsubmit hanswer
      · next ht =>
        have hr : r.tolerates cause = false := by simpa using ht
        have hnone : ∀ x ∈ ([] : List Put), x.Passes := nofun
        exact ⟨[⟨r, some cause⟩], hsubmit, ⟨hanswer, trivial⟩, .refused hnone hr⟩

/-- What `submitAll` puts to a builder is what was asked for, and if nothing goes wrong, the builder
takes all but those of `requests` whose rejection is tolerated. -/
theorem told_submitAll (p : Platform) (h : Host) (j : Nat) (requests : List Request) :
    ∃ news, Told j h (h.submitAll p j requests).1 news ∧
      (∀ e ∈ news, ∃ r ∈ requests, ∃ answer, e = .called j r.call answer) ∧
      ((h.submitAll p j requests).2 = .ok () →
        Request.Granted requests (news.filterMap Event.taken?)) := by
  obtain ⟨puts, htold, -, hends⟩ := submitAll_puts p h j requests
  refine ⟨_, htold, fun e he => ?_, fun hok => ?_⟩
  · obtain ⟨x, hx, rfl⟩ := List.mem_map.mp he
    exact ⟨x.request, hends.request_mem hx, x.refusal, rfl⟩
  · obtain ⟨hall, hpass⟩ := hends.of_ok hok
    rw [← hall]
    exact .of_puts hpass

/-- A builder that is asked by `establish` for its interface takes nothing any more. -/
theorem told_establish (p : Platform) (h : Host) (j : Nat) :
    Told j h (h.establish p j).1 [.established j (p.establish h.events j)] := by
  unfold establish
  cases p.establish h.events j <;> exact .of_builders rfl rfl rfl

theorem establish_of_ok (hup : h.establish p j = (h', .ok i)) :
    p.establish h.events j = .up ∧ i = h.interfaces.length ∧
      h'.interfaces = h.interfaces ++ [⟨h.builders.getD j default, .engine⟩] := by
  unfold establish at hup
  cases hp : p.establish h.events j <;> rw [hp] at hup <;> cases hup
  exact ⟨rfl, rfl, rfl⟩

/-- When `bringUp` asks for an interface, either some request fails and is the last that is put, or
all are put and pass, and it is then the turn of `p`. -/
theorem bringUp_puts (p : Platform) (h : Host) (j : Nat) (requests : List Request) :
    ∃ puts : List Put, Put.AnsweredBy p j h.events puts ∧
      ((∃ e, (h.bringUp p j requests).2 = .error e ∧ Put.Ends requests puts (.error e) ∧
          Told j h (h.bringUp p j requests).1 (puts.map (Put.event j))) ∨
        ∃ outcome, outcome = p.establish (h.events ++ puts.map (Put.event j)) j ∧
          puts.map Put.request = requests ∧ (∀ x ∈ puts, x.Passes) ∧
          Told j h (h.bringUp p j requests).1
            (puts.map (Put.event j) ++ [.established j outcome]) ∧
          ((h.bringUp p j requests).2.isOk = true ↔ outcome = .up)) := by
  obtain ⟨puts, htold, hanswered, hends⟩ := submitAll_puts p h j requests
  refine ⟨puts, hanswered, ?_⟩
  unfold bringUp
  split
  · next h₁ he =>
    rw [he] at htold hends
    obtain ⟨hall, hpass⟩ := hends.of_ok rfl
    refine .inr ⟨_, rfl, hall, hpass, ?_, ?_⟩ <;> rw [← htold.events]
    · exact htold.trans (told_establish p h₁ j)
    · unfold establish
      cases p.establish h₁.events j <;> simp [Except.isOk, Except.toBool]
  · next h₁ e he =>
    rw [he] at htold hends
    exact .inl ⟨e, rfl, hends, htold⟩

/-- A builder that `bringUp` asks for an interface may have taken some of `requests`. -/
theorem told_bringUp (p : Platform) (h : Host) (j : Nat) (requests : List Request) :
    ∃ news, Told j h (h.bringUp p j requests).1 news ∧
      ∀ c ∈ news.filterMap Event.taken?, ∃ r ∈ requests, c = r.call := by
  obtain ⟨puts, -, hcases⟩ := bringUp_puts p h j requests
  have htaken (hrequests : ∀ x ∈ puts, x.request ∈ requests) :
      ∀ c ∈ (puts.map (Put.event j)).filterMap Event.taken?, ∃ r ∈ requests, c = r.call := by
    intro c hc
    obtain ⟨e, he, htake⟩ := List.mem_filterMap.mp hc
    obtain ⟨x, hx, rfl⟩ := List.mem_map.mp he
    obtain ⟨r, _ | cause⟩ := x <;> cases htake
    exact ⟨r, hrequests _ hx, rfl⟩
  rcases hcases with ⟨e, -, hends, htold⟩ | ⟨outcome, -, rfl, -, htold, -⟩
  · exact ⟨_, htold, htaken fun x => hends.request_mem⟩
  · refine ⟨_, htold, ?_⟩
    rw [List.filterMap_append]
    simpa using htaken fun x => List.mem_map_of_mem

/-- An interface that comes up has the next number. -/
theorem eq_length_of_bringUp {requests : List Request}
    (hup : h.bringUp p j requests = (h', .ok i)) : i = h.interfaces.length := by
  have hsame := interfaces_submitAll p h j requests
  unfold bringUp at hup
  split at hup
  · next h₁ he =>
    rw [he] at hsame
    rw [(establish_of_ok hup).2.1, hsame]
  · cases hup

/-- The interface `i` comes up: its builder has taken all of `requests` but those whose rejection is
tolerated, and the last that happened is that the platform brought it up. -/
theorem bringUp_of_ok {requests : List Request} {b : Builder} (hb : h.builders[j]? = some b)
    (hup : h.bringUp p j requests = (h', .ok i)) :
    ∃ told, Told j h h' (told ++ [.established j .up]) ∧
      (∀ e ∈ told, ∃ r ∈ requests, ∃ answer, e = .called j r.call answer) ∧
      Request.Granted requests (told.filterMap Event.taken?) ∧ i = h.interfaces.length ∧
      h'.interfaces = h.interfaces ++
        [⟨{ b with accepted := b.accepted ++ told.filterMap Event.taken? }, .engine⟩] := by
  obtain ⟨told, htold, hcalls, hok⟩ := told_submitAll p h j requests
  have hsame := interfaces_submitAll p h j requests
  unfold bringUp at hup
  split at hup
  · next h₁ he =>
    rw [he] at htold hsame hok
    have hasked := told_establish p h₁ j
    obtain ⟨hanswer, hi, hinterfaces⟩ := establish_of_ok hup
    rw [hup, hanswer] at hasked
    refine ⟨told, htold.trans hasked, hcalls, hok rfl, by rw [hi, hsame], ?_⟩
    rw [hinterfaces, hsame, List.getD_eq_getElem?_getD, htold.getElem?_self hb]
    rfl
  · cases hup

/-! ## New builders -/

theorem getElem?_create_self (h : Host) (session : String) :
    (h.create session).1.builders[(h.create session).2]? = some ⟨session, []⟩ :=
  List.getElem?_concat_length

/-- `create` makes a builder that is none of those of `h`, which stay as they are. -/
theorem getElem?_create {b : Builder} (hb : h.builders[i]? = some b) (session : String) :
    (h.create session).1.builders[i]? = some b ∧ (h.create session).2 ≠ i := by
  have hi : i < h.builders.length := (List.getElem?_eq_some_iff.mp hb).1
  refine ⟨?_, Nat.ne_of_gt hi⟩
  rw [← hb]
  exact List.getElem?_append_left hi

/-- What comes up at a new builder is nothing to a builder `b` that was there before. -/
theorem getElem?_bringUp_create {b : Builder} (hb : h.builders[i]? = some b) (p : Platform)
    (session : String) (requests : List Request) :
    ((h.create session).1.bringUp p (h.create session).2 requests).1.builders[i]? = some b := by
  obtain ⟨hsame, hne⟩ := getElem?_create hb session
  obtain ⟨news, htold, -⟩ := told_bringUp p (h.create session).1 (h.create session).2 requests
  rw [htold.getElem?_of_ne hne, hsame]

end Host

end SplitTunnel
