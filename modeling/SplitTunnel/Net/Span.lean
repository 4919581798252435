import SplitTunnel.Net.Address

/-!
# Spans (`SPEC_FULL.md` §4.1)

A span is a nonempty range of address numbers of one family, both ends included.

* `Span.join`: the smallest span around two.
* `Span.minus`: what is left of a span when another one is cut out, as at most two spans.
* `Span.mem_minus`: a number is in a piece of `s.minus hole` exactly when it is in `s` and not in
  `hole`.
-/

namespace SplitTunnel.Net

/-- The numbers from `first` to `last`, which are both below `f.size`. -/
@[ext]
structure Span (f : Family) where
  first : Nat
  last : Nat
  first_le_last : first ≤ last
  last_lt : last < f.size
deriving Repr

namespace Span

variable {f : Family}

instance : DecidableEq (Span f) := fun _ _ => decidable_of_iff' _ Span.ext_iff

instance : Membership Nat (Span f) := ⟨fun s n => s.first ≤ n ∧ n ≤ s.last⟩

theorem first_lt (s : Span f) : s.first < f.size := Nat.lt_of_le_of_lt s.first_le_last s.last_lt

theorem mem_iff {s : Span f} {n : Nat} : n ∈ s ↔ s.first ≤ n ∧ n ≤ s.last := Iff.rfl

instance (s : Span f) (n : Nat) : Decidable (n ∈ s) := inferInstanceAs (Decidable (_ ∧ _))

/-- The span from `first` to `last`, if `first ≤ last < f.size`. -/
def of? (f : Family) (first last : Nat) : Option (Span f) :=
  if h : first ≤ last ∧ last < f.size then some ⟨first, last, h.1, h.2⟩ else none

/-- `a` ends before `b` starts, and at least one number lies between them. -/
def Before (a b : Span f) : Prop := a.last + 1 < b.first

instance (a b : Span f) : Decidable (Before a b) := inferInstanceAs (Decidable (_ < _))

/-- The smallest span that holds `a` and `b`. -/
def join (a b : Span f) : Span f where
  first := min a.first b.first
  last := max a.last b.last
  first_le_last := by have := a.first_le_last; omega
  last_lt := by have := a.last_lt; have := b.last_lt; omega

/-- What of `s` lies before `hole`. -/
def before (s hole : Span f) : List (Span f) :=
  if h : s.first < hole.first then
    [⟨s.first, min s.last (hole.first - 1), by have := s.first_le_last; omega,
      by have := s.last_lt; omega⟩]
  else []

/-- What of `s` lies after `hole`. -/
def after (s hole : Span f) : List (Span f) :=
  if h : hole.last < s.last then
    [⟨max s.first (hole.last + 1), s.last, by have := s.first_le_last; omega, s.last_lt⟩]
  else []

/-- What is left of `s` when `hole` is cut out, in ascending order. -/
def minus (s hole : Span f) : List (Span f) :=
  if s.last < hole.first ∨ hole.last < s.first then [s] else s.before hole ++ s.after hole

theorem Before.trans {a b c : Span f} (h : Before a b) (h' : Before b c) : Before a c := by
  have := b.first_le_last
  simp only [Before] at *
  omega

/-- Unless `a` and `b` lie apart, `a.join b` has the numbers of both and no other. -/
theorem mem_join {a b : Span f} {n : Nat} (h : ¬ Before a b) (h' : ¬ Before b a) :
    n ∈ a.join b ↔ n ∈ a ∨ n ∈ b := by
  simp only [Before, join, mem_iff] at *
  omega

/-- The pieces of `s.minus hole` lie inside `s`. -/
theorem le_of_mem_minus {s hole t : Span f} (h : t ∈ s.minus hole) :
    s.first ≤ t.first ∧ t.last ≤ s.last := by
  simp only [minus, before, after] at h
  split at h
  · simp only [List.mem_singleton] at h; subst h; exact ⟨Nat.le_refl _, Nat.le_refl _⟩
  · simp only [List.mem_append] at h
    rcases h with h | h <;> split at h <;> simp only [List.mem_singleton, List.not_mem_nil] at h <;>
      subst h <;> simp only <;> omega

/-- The two pieces of `s.minus hole` do not touch. -/
theorem pairwise_minus (s hole : Span f) : (s.minus hole).Pairwise Before := by
  simp only [minus, before, after]
  have := hole.first_le_last
  split
  · exact List.pairwise_singleton ..
  · split <;> split <;> simp [Before]
    omega

/-- `s.minus hole` has the numbers of `s` without those of `hole`. -/
theorem mem_minus {s hole : Span f} {n : Nat} :
    (∃ t ∈ s.minus hole, n ∈ t) ↔ n ∈ s ∧ n ∉ hole := by
  have := s.first_le_last
  have := hole.first_le_last
  simp only [minus, before, after]
  split
  · simp only [List.mem_singleton, exists_eq_left, mem_iff] at *; omega
  · split <;> split <;>
      simp only [List.mem_append, List.mem_singleton, List.not_mem_nil, false_or, or_false,
        exists_eq_left, exists_eq_or_imp, false_and, exists_false, false_iff, mem_iff] at * <;>
      omega

end Span

end SplitTunnel.Net
