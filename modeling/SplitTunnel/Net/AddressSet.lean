import SplitTunnel.Net.Block
import SplitTunnel.Net.Runs

/-!
# Address sets (`SPEC_FULL.md` §3 and §4.1, `IpRangeSet`)

A set of addresses of both families. Union, difference and restriction to a family are exact:

* `mem_add`, `mem_remove`: one block goes in or out and nothing else changes.
* `mem_addAll`, `mem_removeAll`: union and difference with another set.
* `mem_restrict`: only the addresses of one family are left.
-/

namespace SplitTunnel.Net

/-- A set of addresses, held for each family as `Runs`. -/
structure AddressSet where
  ipv4 : Runs .ipv4
  ipv6 : Runs .ipv6
deriving DecidableEq, Repr

namespace AddressSet

/-- The set without an address. -/
def empty : AddressSet := ⟨.empty, .empty⟩

instance : Inhabited AddressSet := ⟨empty⟩

/-- The addresses of `f` in `s`. -/
def runs (s : AddressSet) : (f : Family) → Runs f
  | .ipv4 => s.ipv4
  | .ipv6 => s.ipv6

/-- `s` with other addresses of one family. -/
def setRuns (s : AddressSet) : (f : Family) → Runs f → AddressSet
  | .ipv4, r => { s with ipv4 := r }
  | .ipv6, r => { s with ipv6 := r }

instance : Membership Address AddressSet := ⟨fun s a => a.value ∈ s.runs a.family⟩

theorem mem_iff {s : AddressSet} {a : Address} : a ∈ s ↔ a.value ∈ s.runs a.family := Iff.rfl

@[simp] theorem runs_setRuns_self (s : AddressSet) (f : Family) (r : Runs f) :
    (s.setRuns f r).runs f = r := by cases f <;> rfl

theorem runs_setRuns_of_ne (s : AddressSet) {f g : Family} (r : Runs f) (h : g ≠ f) :
    (s.setRuns f r).runs g = s.runs g := by
  match f, g with
  | .ipv4, .ipv6 => rfl
  | .ipv6, .ipv4 => rfl
  | .ipv4, .ipv4 => exact absurd rfl h
  | .ipv6, .ipv6 => exact absurd rfl h

@[simp] theorem not_mem_empty (a : Address) : a ∉ empty := by
  rcases a with ⟨f, v, h⟩
  cases f <;> exact Runs.not_mem_empty v

/-- Adds the addresses of `new`. -/
def addSpan (s : AddressSet) {f : Family} (new : Span f) : AddressSet :=
  s.setRuns f ((s.runs f).insert new)

/-- Adds the addresses of `b`. -/
def add (s : AddressSet) (b : Block) : AddressSet := s.addSpan b.span

/-- Removes the addresses of `hole`. -/
def removeSpan (s : AddressSet) {f : Family} (hole : Span f) : AddressSet :=
  s.setRuns f ((s.runs f).erase hole)

/-- Removes the addresses of `b`. -/
def remove (s : AddressSet) (b : Block) : AddressSet := s.removeSpan b.span

/-- The addresses of `s` and of `t`. -/
def addAll (s t : AddressSet) : AddressSet := ⟨s.ipv4.union t.ipv4, s.ipv6.union t.ipv6⟩

/-- The addresses of `s` that are not in `t`. -/
def removeAll (s t : AddressSet) : AddressSet := ⟨s.ipv4.diff t.ipv4, s.ipv6.diff t.ipv6⟩

/-- The addresses of `s` that are of family `f`. -/
def restrict (s : AddressSet) (f : Family) : AddressSet := empty.setRuns f (s.runs f)

/-- Adds the blocks `bs` in order. -/
def extend (s : AddressSet) (bs : List Block) : AddressSet := bs.foldl add s

/-- The addresses of the blocks `bs`. -/
def ofBlocks (bs : List Block) : AddressSet := empty.extend bs

/-- The number of maximal runs of addresses in `s`, of both families together. -/
def runCount (s : AddressSet) : Nat := s.ipv4.spans.length + s.ipv6.spans.length

/-- `s` has no address. -/
def isEmpty (s : AddressSet) : Bool := s.ipv4.isEmpty && s.ipv6.isEmpty

/-! ## Membership -/

theorem mem_addSpan {s : AddressSet} {f : Family} {new : Span f} {a : Address} :
    a ∈ s.addSpan new ↔ (a.family = f ∧ a.value ∈ new) ∨ a ∈ s := by
  by_cases h : a.family = f
  · subst h
    simp [mem_iff, addSpan]
  · simp [mem_iff, addSpan, runs_setRuns_of_ne _ _ h, h]

theorem mem_removeSpan {s : AddressSet} {f : Family} {hole : Span f} {a : Address} :
    a ∈ s.removeSpan hole ↔ a ∈ s ∧ ¬ (a.family = f ∧ a.value ∈ hole) := by
  by_cases h : a.family = f
  · subst h
    simp [mem_iff, removeSpan]
  · simp [mem_iff, removeSpan, runs_setRuns_of_ne _ _ h, h]

/-- `a ∈ b`: the address `a` is of the family of `b`, and its number is in `b.span`. -/
instance : Membership Address Block := ⟨fun b a => a.family = b.family ∧ a.value ∈ b.span⟩

theorem mem_block_iff {b : Block} {a : Address} :
    a ∈ b ↔ a.family = b.family ∧ a.value ∈ b.span := Iff.rfl

@[simp] theorem mem_add {s : AddressSet} {b : Block} {a : Address} :
    a ∈ s.add b ↔ a ∈ b ∨ a ∈ s := mem_addSpan

@[simp] theorem mem_remove {s : AddressSet} {b : Block} {a : Address} :
    a ∈ s.remove b ↔ a ∈ s ∧ a ∉ b := mem_removeSpan

@[simp] theorem mem_addAll {s t : AddressSet} {a : Address} :
    a ∈ s.addAll t ↔ a ∈ s ∨ a ∈ t := by
  rcases a with ⟨f, v, h⟩
  cases f <;> exact Runs.mem_union

@[simp] theorem mem_removeAll {s t : AddressSet} {a : Address} :
    a ∈ s.removeAll t ↔ a ∈ s ∧ a ∉ t := by
  rcases a with ⟨f, v, h⟩
  cases f <;> exact Runs.mem_diff

@[simp] theorem mem_restrict {s : AddressSet} {f : Family} {a : Address} :
    a ∈ s.restrict f ↔ a.family = f ∧ a ∈ s := by
  by_cases h : a.family = f
  · subst h
    simp [mem_iff, restrict]
  · have : a ∉ s.restrict f := by
      rw [mem_iff, restrict, runs_setRuns_of_ne _ _ h]
      exact not_mem_empty a
    simp [this, h]

end AddressSet

end SplitTunnel.Net
