import SplitTunnel.Net.Span

/-!
# Runs: the addresses of one family in a set (`SPEC_FULL.md` §3 and §4.1, `IpRangeSet`)

A set of address numbers is held as its maximal runs: spans in ascending order with at least one
missing number between neighbours. A set of numbers has one such form only.

* `Runs.insert` adds a span and joins what it touches; `Runs.erase` cuts one out.
* `mem_insert` and `mem_erase`: they are union and difference on the numbers.
* `Runs.union` and `Runs.diff` do so with all spans of another value.
-/

namespace SplitTunnel.Net

open SplitTunnel.Net.Span

/-- The maximal runs of a set of address numbers of `f`, in ascending order and apart
(`Span.Before`). -/
structure Runs (f : Family) where
  spans : List (Span f)
  separated : spans.Pairwise Before
deriving DecidableEq, Repr

namespace Runs

variable {f : Family}

/-- The runs of no number. -/
def empty : Runs f := ⟨[], List.Pairwise.nil⟩

instance : Inhabited (Runs f) := ⟨empty⟩

instance : Membership Nat (Runs f) := ⟨fun r n => ∃ s ∈ r.spans, n ∈ s⟩

theorem mem_iff {r : Runs f} {n : Nat} : n ∈ r ↔ ∃ s ∈ r.spans, n ∈ s := Iff.rfl

@[simp] theorem not_mem_empty (n : Nat) : n ∉ (empty : Runs f) := by simp [mem_iff, empty]

/-- `r` has no number. -/
def isEmpty (r : Runs f) : Bool := r.spans.isEmpty

/-! ## Insertion -/

/-- Adds `new` to ascending, separated spans: what lies apart from `new` stays, what touches it is
joined with it. -/
def insertSpan (new : Span f) : List (Span f) → List (Span f)
  | [] => [new]
  | s :: rest =>
    if Before s new then s :: insertSpan new rest
    else if Before new s then new :: s :: rest
    else insertSpan (s.join new) rest

theorem le_first_of_mem_insertSpan {new : Span f} {l : List (Span f)} {lo : Nat}
    (hn : lo ≤ new.first) (hl : ∀ s ∈ l, lo ≤ s.first) : ∀ t ∈ insertSpan new l, lo ≤ t.first := by
  induction l generalizing new with
  | nil => simpa [insertSpan] using hn
  | cons s rest ih =>
    have hs := hl s (by simp)
    have hr : ∀ t ∈ rest, lo ≤ t.first := fun t ht => hl t (by simp [ht])
    simp only [insertSpan]
    split
    · simpa [hs] using ih hn hr
    · split
      · simpa [hn, hs] using hr
      · exact ih (by simp only [join]; omega) hr

theorem pairwise_insertSpan {new : Span f} {l : List (Span f)} (hl : l.Pairwise Before) :
    (insertSpan new l).Pairwise Before := by
  induction l generalizing new with
  | nil => exact List.pairwise_singleton ..
  | cons s rest ih =>
    obtain ⟨hs, hr⟩ := List.pairwise_cons.mp hl
    simp only [insertSpan]
    split
    · next h =>
      refine List.pairwise_cons.mpr ⟨fun t ht => ?_, ih hr⟩
      exact le_first_of_mem_insertSpan (Nat.succ_le_of_lt h) (fun t ht => hs t ht) t ht
    · split
      · next h =>
        refine List.pairwise_cons.mpr ⟨fun t ht => ?_, hl⟩
        rcases List.mem_cons.mp ht with rfl | ht
        · exact h
        · exact h.trans (hs t ht)
      · exact ih hr

theorem exists_mem_insertSpan {new : Span f} {l : List (Span f)} {n : Nat} :
    (∃ s ∈ insertSpan new l, n ∈ s) ↔ n ∈ new ∨ ∃ s ∈ l, n ∈ s := by
  induction l generalizing new with
  | nil => simp [insertSpan]
  | cons s rest ih =>
    simp only [insertSpan]
    split
    · simp only [List.mem_cons, exists_eq_or_imp, ih]
      exact or_left_comm
    · next h =>
      split
      · simp only [List.mem_cons, exists_eq_or_imp]
      · next h' =>
        simp only [List.mem_cons, exists_eq_or_imp, ih, mem_join h h']
        rw [or_comm (a := n ∈ s), or_assoc]

/-- The numbers of `r` and of `new`. -/
def insert (r : Runs f) (new : Span f) : Runs f :=
  ⟨insertSpan new r.spans, pairwise_insertSpan r.separated⟩

@[simp] theorem mem_insert {r : Runs f} {new : Span f} {n : Nat} :
    n ∈ r.insert new ↔ n ∈ new ∨ n ∈ r := exists_mem_insertSpan

/-! ## Removal -/

/-- Cuts `hole` out of each span of `l`. -/
def eraseSpan (hole : Span f) (l : List (Span f)) : List (Span f) := l.flatMap (·.minus hole)

theorem pairwise_eraseSpan {hole : Span f} {l : List (Span f)} (hl : l.Pairwise Before) :
    (eraseSpan hole l).Pairwise Before := by
  induction l with
  | nil => exact List.Pairwise.nil
  | cons s rest ih =>
    obtain ⟨hs, hr⟩ := List.pairwise_cons.mp hl
    rw [eraseSpan, List.flatMap_cons, List.pairwise_append]
    refine ⟨pairwise_minus s hole, ih hr, fun a ha b hb => ?_⟩
    obtain ⟨t, ht, hb⟩ := List.mem_flatMap.mp hb
    have h₁ := le_of_mem_minus ha
    have h₂ := le_of_mem_minus hb
    have h₃ := hs t ht
    simp only [Before] at *
    omega

/-- The numbers of `r` that are not in `hole`. -/
def erase (r : Runs f) (hole : Span f) : Runs f :=
  ⟨eraseSpan hole r.spans, pairwise_eraseSpan r.separated⟩

@[simp] theorem mem_erase {r : Runs f} {hole : Span f} {n : Nat} :
    n ∈ r.erase hole ↔ n ∈ r ∧ n ∉ hole := by
  simp only [mem_iff, erase, eraseSpan, List.mem_flatMap]
  constructor
  · rintro ⟨t, ⟨s, hs, ht⟩, hn⟩
    obtain ⟨h, h'⟩ := mem_minus.mp ⟨t, ht, hn⟩
    exact ⟨⟨s, hs, h⟩, h'⟩
  · rintro ⟨⟨s, hs, h⟩, h'⟩
    obtain ⟨t, ht, hn⟩ := mem_minus.mpr ⟨h, h'⟩
    exact ⟨t, ⟨s, hs, ht⟩, hn⟩

/-! ## Whole sets -/

/-- The numbers of `a` and of `b`. -/
def union (a b : Runs f) : Runs f := b.spans.foldl insert a

/-- The numbers of `a` that are not in `b`. -/
def diff (a b : Runs f) : Runs f := b.spans.foldl erase a

theorem mem_foldl_insert {l : List (Span f)} {a : Runs f} {n : Nat} :
    n ∈ l.foldl insert a ↔ n ∈ a ∨ ∃ s ∈ l, n ∈ s := by
  induction l generalizing a with
  | nil => simp
  | cons s rest ih =>
    simp only [List.foldl_cons, ih, mem_insert, List.mem_cons, exists_eq_or_imp]
    rw [or_comm (a := n ∈ s), or_assoc]

theorem mem_foldl_erase {l : List (Span f)} {a : Runs f} {n : Nat} :
    n ∈ l.foldl erase a ↔ n ∈ a ∧ ¬ ∃ s ∈ l, n ∈ s := by
  induction l generalizing a with
  | nil => simp
  | cons s rest ih =>
    simp only [List.foldl_cons, ih, mem_erase, List.mem_cons, exists_eq_or_imp, not_or, and_assoc]

@[simp] theorem mem_union {a b : Runs f} {n : Nat} : n ∈ a.union b ↔ n ∈ a ∨ n ∈ b :=
  mem_foldl_insert

@[simp] theorem mem_diff {a b : Runs f} {n : Nat} : n ∈ a.diff b ↔ n ∈ a ∧ n ∉ b :=
  mem_foldl_erase

end Runs

end SplitTunnel.Net
