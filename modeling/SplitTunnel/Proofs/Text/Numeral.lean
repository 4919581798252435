import SplitTunnel.Text.Numeral
import Mathlib.Data.List.Basic
import Mathlib.Data.List.Induction

/-!
# Numerals are read back (`SPEC_FULL.md` §4.1, parsing)

* `Text.natural?_toDigits`: the digits of a number, in a base up to sixteen, denote the number.
* `Text.unsigned?_toDigits`: so does a number that is read up to a limit.
* `Text.head?_toDigits`: only zero starts with a zero.
* `Text.digit?_of_mem`: whatever a numeral consists of, it is digits, so no mark is among them.
* `Text.IsNumeral`, `Text.IsUnsigned`: the texts that denote a number, and those with an optional
  plus sign; `Text.unsigned?_eq_some_iff` is that reading accepts these up to a limit and no other.
-/

namespace SplitTunnel.Text

variable {base n d : Nat} {c : Char} {text : List Char}

theorem digit?_digitChar (hb : base ≤ 16) (hd : d < base) :
    digit? base (Nat.digitChar d) = some d := by
  have hall : ∀ d < 16, (digit? 16 (Nat.digitChar d)) = some d := by decide
  have h16 := hall d (Nat.lt_of_lt_of_le hd hb)
  obtain ⟨h, -⟩ := Option.filter_eq_some_iff.mp h16
  exact Option.filter_eq_some_iff.mpr ⟨h, by simpa using hd⟩

theorem natural?_eq_some_iff : natural? base text = some n ↔
    text ≠ [] ∧ text.foldlM (fun n c => (digit? base c).map (base * n + ·)) 0 = some n := by
  unfold natural?
  cases text <;> simp

/-- One more digit `c` makes of the numeral for `n` the one for `base * n + d`. -/
theorem natural?_concat (h : natural? base text = some n) (hc : digit? base c = some d) :
    natural? base (text ++ [c]) = some (base * n + d) := by
  obtain ⟨-, hfold⟩ := natural?_eq_some_iff.mp h
  refine natural?_eq_some_iff.mpr ⟨by simp, ?_⟩
  rw [List.foldlM_append, hfold]
  simp [hc]

theorem natural?_singleton (hc : digit? base c = some d) : natural? base [c] = some d := by
  simp [natural?, hc]

/-- `natural?` reads back the `n` that `Nat.toDigits` has written. -/
theorem natural?_toDigits (h1 : 1 < base) (hb : base ≤ 16) (n : Nat) :
    natural? base (Nat.toDigits base n) = some n := by
  induction n using Nat.strongRecOn with
  | ind n ih =>
    rw [Nat.toDigits_eq_if h1]
    split
    · next hn => exact natural?_singleton (digit?_digitChar hb hn)
    · next hn =>
      have hdigit := digit?_digitChar hb (Nat.mod_lt n (Nat.zero_lt_of_lt h1))
      rw [natural?_concat (ih _ (Nat.div_lt_self (by omega) h1)) hdigit, Nat.div_add_mod]

/-- Each character of a text that `natural?` reads is a digit of `base`. -/
theorem digit?_of_mem (h : natural? base text = some n) (hc : c ∈ text) :
    (digit? base c).isSome = true := by
  obtain ⟨-, hfold⟩ := natural?_eq_some_iff.mp h
  clear h
  generalize 0 = m at hfold
  induction text generalizing m with
  | nil => cases hc
  | cons e rest ih =>
    rw [List.foldlM_cons] at hfold
    obtain ⟨k, hk, hrest⟩ := Option.bind_eq_some_iff.mp hfold
    obtain ⟨d, hd, -⟩ := Option.map_eq_some_iff.mp hk
    rcases List.mem_cons.mp hc with rfl | hc
    · rw [hd]
      rfl
    · exact ih hc k hrest

/-- A mark `c` that is no digit of `base` is not in a numeral. -/
theorem notMem_of_natural? (h : natural? base text = some n) (hc : digit? base c = none) :
    c ∉ text := by
  intro hmem
  have hdigit := digit?_of_mem h hmem
  rw [hc] at hdigit
  cases hdigit

/-- `unsigned?` reads back what `Nat.toDigits` has written, which is without a sign. -/
theorem unsigned?_toDigits {limit : Nat} (h1 : 1 < base) (hb : base ≤ 16) (h : n ≤ limit) :
    unsigned? base limit (Nat.toDigits base n) = some n := by
  have hread := natural?_toDigits h1 hb n
  have hsign : '+' ∉ Nat.toDigits base n := notMem_of_natural? hread rfl
  unfold unsigned?
  split
  · next rest heq =>
    exact absurd (List.mem_cons_self ..) (heq ▸ hsign)
  · show (natural? base (Nat.toDigits base n)).filter _ = some n
    rw [hread]
    simpa using h

theorem unsigned?_decimal {limit : Nat} (h : n ≤ limit) :
    unsigned? 10 limit (decimal n) = some n :=
  unsigned?_toDigits (by decide) (by decide) h

theorem unsigned?_hexadecimal {limit : Nat} (h : n ≤ limit) :
    unsigned? 16 limit (hexadecimal n) = some n :=
  unsigned?_toDigits (by decide) (by decide) h

/-- Only `0` is written with a zero in front. -/
theorem head?_toDigits (h1 : 1 < base) (hb : base ≤ 16)
    (h : (Nat.toDigits base n).head? = some '0') : n = 0 := by
  induction n using Nat.strongRecOn with
  | ind n ih =>
    rw [Nat.toDigits_eq_if h1] at h
    split at h
    · next hn =>
      have hzero : ∀ d < 16, Nat.digitChar d = '0' → d = 0 := by decide
      exact hzero n (Nat.lt_of_lt_of_le hn hb) (Option.some.inj h)
    · next hn =>
      rw [List.head?_append_of_ne_nil _ Nat.toDigits_ne_nil] at h
      have hdiv := ih _ (Nat.div_lt_self (by omega) h1) h
      have hpos : 0 < n / base := Nat.div_pos (by omega) (by omega)
      omega

/-! ## Which texts denote a number -/

/-- `IsNumeral base text n`: `text` is digits of `base` that denote `n`. -/
inductive IsNumeral (base : Nat) : List Char → Nat → Prop
  | digit {c : Char} {d : Nat} (hc : digit? base c = some d) : IsNumeral base [c] d
  | concat {text : List Char} {n : Nat} {c : Char} {d : Nat} (h : IsNumeral base text n)
    (hc : digit? base c = some d) : IsNumeral base (text ++ [c]) (base * n + d)

theorem natural?_eq_some_iff_isNumeral : natural? base text = some n ↔ IsNumeral base text n := by
  constructor
  · intro h
    induction text using List.reverseRecOn generalizing n with
    | nil => cases h
    | append_singleton text c ih =>
      obtain ⟨-, hfold⟩ := natural?_eq_some_iff.mp h
      rw [List.foldlM_append] at hfold
      obtain ⟨m, hm, hlast⟩ := Option.bind_eq_some_iff.mp hfold
      rw [List.foldlM_cons] at hlast
      obtain ⟨k, hk, hnil⟩ := Option.bind_eq_some_iff.mp hlast
      obtain ⟨d, hd, rfl⟩ := Option.map_eq_some_iff.mp hk
      cases hnil
      by_cases hne : text = []
      · subst hne
        cases hm
        simpa using IsNumeral.digit hd
      · exact .concat (ih (natural?_eq_some_iff.mpr ⟨hne, hm⟩)) hd
  · intro h
    induction h with
    | digit hc => exact natural?_singleton hc
    | concat h hc ih => exact natural?_concat ih hc

/-- `IsUnsigned base text n`: the same, possibly after one plus sign. -/
inductive IsUnsigned (base : Nat) : List Char → Nat → Prop
  | plain {text : List Char} {n : Nat} (h : IsNumeral base text n) : IsUnsigned base text n
  | plus {text : List Char} {n : Nat} (h : IsNumeral base text n) : IsUnsigned base ('+' :: text) n

theorem unsigned?_eq_some_iff {limit : Nat} :
    unsigned? base limit text = some n ↔ IsUnsigned base text n ∧ n ≤ limit := by
  have hfilter {digits : List Char} : (natural? base digits).filter (· ≤ limit) = some n ↔
      IsNumeral base digits n ∧ n ≤ limit := by
    rw [Option.filter_eq_some_iff, natural?_eq_some_iff_isNumeral, decide_eq_true_eq]
  unfold unsigned?
  split
  · next rest =>
    rw [hfilter]
    constructor
    · exact fun ⟨h, hle⟩ => ⟨.plus h, hle⟩
    · rintro ⟨h, hle⟩
      cases h with
      | plus h => exact ⟨h, hle⟩
      | plain h =>
        exact absurd (List.mem_cons_self ..)
          (notMem_of_natural? (natural?_eq_some_iff_isNumeral.mpr h) (c := '+') rfl)
  · next hplus =>
    rw [hfilter]
    constructor
    · exact fun ⟨h, hle⟩ => ⟨.plain h, hle⟩
    · rintro ⟨h, hle⟩
      cases h with
      | plus h => exact absurd rfl (hplus _)
      | plain h => exact ⟨h, hle⟩

end SplitTunnel.Text
