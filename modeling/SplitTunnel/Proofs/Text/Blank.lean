import SplitTunnel.Text.Blank
import SplitTunnel.Text.Numeral
import Mathlib.Data.List.TakeWhile

/-!
# Blanks (`SPEC_FULL.md` §4.1, whitespace around items)

* `Text.trim_append`: blanks before and after a text without blanks are taken away, and nothing
  else.
* `Text.mem_trim`: a character that is no blank stays.
* `Text.digit?_of_isBlank`: a blank is no digit.
-/

namespace SplitTunnel.Text

variable {c : Char} {s : List Char}

theorem dropWhile_isBlank_append (left right : List Char) (hl : ∀ c ∈ left, isBlank c = true)
    (hs : ∀ c ∈ s, isBlank c = false) (hne : s ≠ []) :
    (left ++ (s ++ right)).dropWhile isBlank = s ++ right := by
  obtain ⟨c, rest, rfl⟩ := List.exists_cons_of_ne_nil hne
  rw [List.dropWhile_append_of_pos hl, List.cons_append, List.dropWhile_cons_of_neg]
  simp [hs c (List.mem_cons_self ..)]

/-- `trim` takes away the blanks `left` and `right` around `s`, and no more. -/
theorem trim_append (left right : List Char) (hl : ∀ c ∈ left, isBlank c = true)
    (hs : ∀ c ∈ s, isBlank c = false) (hne : s ≠ []) (hr : ∀ c ∈ right, isBlank c = true) :
    trim (left ++ (s ++ right)) = s := by
  have hback : ((s ++ right).reverse).dropWhile isBlank = s.reverse := by
    rw [List.reverse_append]
    have hdrop := dropWhile_isBlank_append right.reverse [] (s := s.reverse)
      (fun c hc => hr c (List.mem_reverse.mp hc)) (fun c hc => hs c (List.mem_reverse.mp hc))
      (by simpa using hne)
    simpa using hdrop
  rw [trim, dropWhile_isBlank_append left right hl hs hne, hback, List.reverse_reverse]

/-- `trim` leaves a text `s` without blanks as it is. -/
theorem trim_eq_self (hs : ∀ c ∈ s, isBlank c = false) : trim s = s := by
  by_cases hne : s = []
  · subst hne
    rfl
  · simpa using trim_append [] [] (by simp) hs hne (by simp)

theorem mem_dropWhile_isBlank (h : c ∈ s) (hc : isBlank c = false) : c ∈ s.dropWhile isBlank := by
  rw [← List.takeWhile_append_dropWhile (p := isBlank) (l := s)] at h
  rcases List.mem_append.mp h with h | h
  · rw [List.mem_takeWhile_imp h] at hc
    cases hc
  · exact h

/-- A character `c` with `isBlank c = false` stays in `trim s`. -/
theorem mem_trim (h : c ∈ s) (hc : isBlank c = false) : c ∈ trim s := by
  rw [trim, List.mem_reverse]
  exact mem_dropWhile_isBlank (List.mem_reverse.mpr (mem_dropWhile_isBlank h hc)) hc

theorem digit?_of_isBlank {base : Nat} (h : isBlank c = true) : digit? base c = none := by
  simp only [isBlank, Bool.or_eq_true, Bool.and_eq_true, decide_eq_true_eq, beq_iff_eq] at h
  have hdecimal : ¬ (48 ≤ c.toNat ∧ c.toNat ≤ 57) := by omega
  have hlower : ¬ (97 ≤ c.toNat ∧ c.toNat ≤ 122) := by omega
  have hupper : ¬ (65 ≤ c.toNat ∧ c.toNat ≤ 90) := by omega
  simp only [digit?, if_neg hdecimal, if_neg hlower, if_neg hupper, Option.filter_none]

end SplitTunnel.Text
