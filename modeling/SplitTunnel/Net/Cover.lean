import SplitTunnel.Net.AddressSet

/-!
# Covers: sets as lists of CIDR blocks (`SPEC_FULL.md` §4.1, `subnets`)

A span is cut into blocks from its first address on, each the largest block that starts at the
first address left and does not pass the end.

* `largestFit`: the host bits of that block; `le_largestFit` says that no larger one fits.
* `Span.cover`: the blocks of one span in ascending order.
* `AddressSet.subnets`: the blocks of a set, IPv4 first.
-/

namespace SplitTunnel.Net

/-- The greatest `h` up to `bound` such that the `2 ^ h` numbers from `start` on form an aligned
block that ends at `last` or before. -/
def largestFit (start last : Nat) : Nat → Nat
  | 0 => 0
  | h + 1 =>
    if start % 2 ^ (h + 1) = 0 ∧ start + 2 ^ (h + 1) ≤ last + 1 then h + 1
    else largestFit start last h

theorem largestFit_le (start last bound : Nat) : largestFit start last bound ≤ bound := by
  induction bound with
  | zero => exact Nat.le_refl _
  | succ h ih =>
    simp only [largestFit]
    split
    · exact Nat.le_refl _
    · exact Nat.le_succ_of_le ih

theorem dvd_largestFit (start last bound : Nat) : 2 ^ largestFit start last bound ∣ start := by
  induction bound with
  | zero => simp [largestFit]
  | succ h ih =>
    simp only [largestFit]
    split
    · next hfit => exact Nat.dvd_of_mod_eq_zero hfit.1
    · exact ih

theorem add_largestFit_le {start last : Nat} (bound : Nat) (h : start ≤ last) :
    start + 2 ^ largestFit start last bound ≤ last + 1 := by
  induction bound with
  | zero => simp only [largestFit]; omega
  | succ k ih =>
    simp only [largestFit]
    split
    · next hfit => exact hfit.2
    · exact ih

/-- No aligned block of more than `2 ^ largestFit start last bound` numbers starts at `start` and
fits. -/
theorem le_largestFit {start last bound k : Nat} (hk : k ≤ bound) (hd : 2 ^ k ∣ start)
    (hl : start + 2 ^ k ≤ last + 1) : k ≤ largestFit start last bound := by
  induction bound with
  | zero => omega
  | succ h ih =>
    simp only [largestFit]
    split
    · exact hk
    · next hfit =>
      refine ih (Nat.le_of_lt_succ (Nat.lt_of_le_of_ne hk ?_))
      rintro rfl
      exact hfit ⟨Nat.mod_eq_zero_of_dvd hd, hl⟩

namespace Span

variable {f : Family}

/-- The largest block that starts at `s.first` and lies inside `s`. -/
def firstBlock (s : Span f) : Block where
  base := ⟨f, s.first, Nat.lt_of_le_of_lt s.first_le_last s.last_lt⟩
  prefixLength := f.width - largestFit s.first s.last f.width
  prefixLength_le := Nat.sub_le ..
  dvd_base := by
    rw [Nat.sub_sub_self (largestFit_le ..)]
    exact dvd_largestFit ..

/-- How many addresses `s.firstBlock` has. -/
def firstSize (s : Span f) : Nat := 2 ^ largestFit s.first s.last f.width

/-- The blocks that make up `s`: `s.firstBlock`, and those of what is left after it. -/
def cover (s : Span f) : List Block :=
  if h : s.first + s.firstSize ≤ s.last then
    s.firstBlock :: cover ⟨s.first + s.firstSize, s.last, h, s.last_lt⟩
  else [s.firstBlock]
termination_by s.last - s.first
decreasing_by
  have : 0 < s.firstSize := Nat.two_pow_pos _
  omega

end Span

/-- The blocks that make up the numbers of `r`. -/
def Runs.cover {f : Family} (r : Runs f) : List Block := r.spans.flatMap Span.cover

/-- The blocks that make up `s`, IPv4 first, each family in ascending order. -/
def AddressSet.subnets (s : AddressSet) : List Block := s.ipv4.cover ++ s.ipv6.cover

end SplitTunnel.Net
