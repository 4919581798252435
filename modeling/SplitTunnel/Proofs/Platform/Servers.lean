import SplitTunnel.Proofs.Platform.Host

/-!
# The DNS servers that a builder has taken (`SPEC_FULL.md` §4.3, DNS servers)

A builder is told of a DNS server as soon as it becomes known. What is asked of it when its
interface is to come up names no server, so the ones that it has taken stay as they are.

* `Host.servers`: the servers that a builder has taken, in order.
* `Host.servers_submit`: a server is one more if the builder takes it.
* `Host.servers_bringUp`: what brings an interface up names no server, or asks another builder.
-/

namespace SplitTunnel

open Net

/-- The DNS server that a `Call` names. -/
def Call.dnsServer? : Call → Option Address
  | addDnsServer a => some a
  | _ => none

namespace Host

variable {p : Platform} {h h' : Host} {i j : Nat}

/-- The DNS servers that `builder` has taken, in order. -/
def servers (h : Host) (builder : Nat) : Option (List Address) :=
  h.builders[builder]?.map fun b => b.accepted.filterMap Call.dnsServer?

theorem servers_congr (hb : h'.builders = h.builders) (i : Nat) : h'.servers i = h.servers i := by
  unfold servers
  rw [hb]

theorem servers_create_self (h : Host) (session : String) :
    (h.create session).1.servers (h.create session).2 = some [] := by
  simp [servers, create, log]

/-- `create` makes a builder that is not `i`, and leaves the servers of `i` alone. -/
theorem servers_create {known : List Address} (hs : h.servers i = some known) (session : String) :
    (h.create session).1.servers i = some known ∧ (h.create session).2 ≠ i := by
  obtain ⟨b, hb, hservers⟩ := Option.map_eq_some_iff.mp hs
  have hi : i < h.builders.length := (List.getElem?_eq_some_iff.mp hb).1
  refine ⟨?_, Nat.ne_of_gt hi⟩
  have hb' : (h.create session).1.builders[i]? = some b := by
    rw [← hb]
    exact List.getElem?_append_left hi
  rw [servers, hb', Option.map_some, hservers]

theorem servers_submit (p : Platform) (h : Host) (j i : Nat) (c : Call) :
    (h.submit p j c).1.servers i =
      if j = i ∧ (h.submit p j c).2 = none then (h.servers i).map (· ++ c.dnsServer?.toList)
      else h.servers i := by
  rcases submit_cases p h j c with ⟨cause, -, he⟩ | ⟨-, he⟩
  · rw [he, if_neg (by simp)]
    rfl
  · rw [he]
    unfold servers
    dsimp only
    rw [List.getElem?_modify]
    by_cases hij : j = i
    · rw [if_pos ⟨hij, rfl⟩]
      cases h.builders[i]? with
      | none => rfl
      | some b => cases hc : c.dnsServer? <;> simp [hij, List.filterMap_append, hc]
    · rw [if_neg fun hboth => hij hboth.1]
      simp [hij]

/-- A call `c` that names no server, or is to another builder, leaves the servers of `i` alone. -/
theorem servers_submit_of_other {c : Call} (hc : j ≠ i ∨ c.dnsServer? = none) :
    (h.submit p j c).1.servers i = h.servers i := by
  rw [servers_submit]
  split
  · next hji =>
    have hnone : c.dnsServer? = none := hc.resolve_left (not_not_intro hji.1)
    simp [hnone]
  · rfl

theorem servers_submitAll {requests : List Request}
    (hr : j ≠ i ∨ ∀ r ∈ requests, r.call.dnsServer? = none) :
    (h.submitAll p j requests).1.servers i = h.servers i := by
  induction requests generalizing h with
  | nil => rfl
  | cons r rest ih =>
    have hsubmit : (h.submit p j r.call).1.servers i = h.servers i :=
      servers_submit_of_other (hr.imp_right fun hall => hall r (List.mem_cons_self ..))
    have hrest : j ≠ i ∨ ∀ r ∈ rest, r.call.dnsServer? = none :=
      hr.imp_right fun hall r' hr' => hall r' (List.mem_cons_of_mem r hr')
    unfold submitAll
    split
    · next h₁ he =>
      rw [he] at hsubmit
      rw [ih hrest, hsubmit]
    · next h₁ cause he =>
      rw [he] at hsubmit
      split
      · rw [ih hrest, hsubmit]
      · exact hsubmit

theorem builders_establish (p : Platform) (h : Host) (j : Nat) :
    (h.establish p j).1.builders = h.builders := by
  unfold establish
  dsimp only
  split <;> rfl

theorem servers_bringUp (p : Platform) (h : Host) (requests : List Request)
    (hr : j ≠ i ∨ ∀ r ∈ requests, r.call.dnsServer? = none) :
    (h.bringUp p j requests).1.servers i = h.servers i := by
  have hsubmit : (h.submitAll p j requests).1.servers i = h.servers i := servers_submitAll hr
  unfold bringUp
  split
  · next h₁ he =>
    rw [he] at hsubmit
    rw [servers_congr (builders_establish p h₁ j), hsubmit]
  · next h₁ e he =>
    rw [he] at hsubmit
    exact hsubmit

theorem builders_close (h : Host) (i : Nat) : (h.close i).builders = h.builders := by
  unfold close
  split <;> rfl

theorem builders_drainFrom (p : Platform) (h : Host) (i mtu : Nat) :
    (h.drainFrom p i mtu).1.builders = h.builders := by
  unfold drainFrom
  split <;> rfl

end Host

end SplitTunnel
