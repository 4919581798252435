import SplitTunnel.Net.Address.Printer
import SplitTunnel.Text.Blank
import SplitTunnel.Proofs.Net.Spelling
import SplitTunnel.Proofs.Text.Blank
import Mathlib.Algebra.Group.Nat.Defs

/-!
# How addresses are written (`SPEC_FULL.md` §4.1, display)

* `Address.IsFirstLongest`: the first among the longest runs of zero groups;
  `Address.isFirstLongest_longestZeros` finds it.
* `Address.Written`, `Address.written_iff`: the one text that is written for an address.
* `Address.spells_chars`, `Address.ofChars?_chars`: what is written for an address denotes it.
* `Address.IsMark.notMem_chars`: what stands between addresses is not in it.
-/

namespace SplitTunnel.Net.Address

open Text

variable {gs : List Nat} {i start count n : Nat} {a : Address} {mixed : Bool} {text : List Char}

/-! ## Runs of zero groups -/

/-- `count` zero groups stand in a row in `gs` from `start` on, nowhere do more, and nowhere before
do as many. -/
structure IsFirstLongest (gs : List Nat) (start count : Nat) : Prop where
  zeros : zerosFrom gs start = count
  longest : ∀ i, zerosFrom gs i ≤ count
  first : ∀ i < start, zerosFrom gs i < count

/-- `start` and `count` are determined by `gs`. -/
theorem IsFirstLongest.unique {start' count' : Nat} (h : IsFirstLongest gs start count)
    (h' : IsFirstLongest gs start' count') : start' = start ∧ count' = count := by
  have hcount : count' = count := by
    have h₁ := h.longest start'
    have h₂ := h'.longest start
    rw [h'.zeros] at h₁
    rw [h.zeros] at h₂
    omega
  subst hcount
  refine ⟨?_, rfl⟩
  by_contra hne
  rcases Nat.lt_or_gt_of_ne hne with hlt | hlt
  · exact absurd (h.first _ hlt) (by rw [h'.zeros]; omega)
  · exact absurd (h'.first _ hlt) (by rw [h.zeros]; omega)

/-- The fold keeps the first of the largest values of `f` that it has met. -/
theorem foldl_range_largest (f : Nat → Nat) (k : Nat) :
    let best := (List.range k).foldl
      (fun best i => if best.2 < f i then (i, f i) else best) ((0, 0) : Nat × Nat)
    (∀ i < k, f i ≤ best.2) ∧ (∀ i < best.1, f i < best.2) ∧
      (best = (0, 0) ∨ f best.1 = best.2) := by
  induction k with
  | zero => simp
  | succ k ih =>
    rw [List.range_succ, List.foldl_append]
    generalize (List.range k).foldl
      (fun best i => if best.2 < f i then (i, f i) else best) ((0, 0) : Nat × Nat) = best at ih
    obtain ⟨hle, hlt, hbest⟩ := ih
    simp only [List.foldl_cons, List.foldl_nil]
    split
    · next hnew =>
      refine ⟨fun i hi => ?_, fun i hi => ?_, .inr rfl⟩
      · rcases Nat.lt_succ_iff_lt_or_eq.mp hi with hi | rfl
        · have := hle i hi
          omega
        · exact Nat.le_refl _
      · have := hle i hi
        dsimp only
        omega
    · next hold =>
      refine ⟨fun i hi => ?_, hlt, hbest⟩
      rcases Nat.lt_succ_iff_lt_or_eq.mp hi with hi | rfl
      · exact hle i hi
      · omega

theorem zerosFrom_of_length_le (h : gs.length ≤ i) : zerosFrom gs i = 0 := by
  rw [zerosFrom, List.drop_eq_nil_of_le h]
  rfl

theorem isFirstLongest_longestZeros (gs : List Nat) :
    IsFirstLongest gs (longestZeros gs).1 (longestZeros gs).2 := by
  obtain ⟨hle, hlt, hbest⟩ := foldl_range_largest (zerosFrom gs) gs.length
  have hlongest : ∀ i, zerosFrom gs i ≤ (longestZeros gs).2 := by
    intro i
    by_cases hi : i < gs.length
    · exact hle i hi
    · rw [zerosFrom_of_length_le (Nat.le_of_not_lt hi)]
      exact Nat.zero_le _
  refine ⟨?_, hlongest, hlt⟩
  rcases hbest with hzero | hbest
  · have hnone := hlongest 0
    rw [longestZeros, hzero] at hnone ⊢
    exact Nat.le_zero.mp hnone
  · exact hbest

/-- The `count` zero groups from `start` on are cut out of `gs`. -/
theorem eq_take_append_drop (h : zerosFrom gs start = count) :
    gs = gs.take start ++ List.replicate count 0 ++ gs.drop (start + count) := by
  have hzeros : (gs.drop start).takeWhile (· == 0) = List.replicate count 0 := by
    refine List.eq_replicate_iff.mpr ⟨h, fun g hg => ?_⟩
    simpa using List.all_eq_true.mp (List.all_takeWhile (l := gs.drop start)) g hg
  have hsplit := List.takeWhile_append_dropWhile (p := (· == 0)) (l := gs.drop start)
  rw [hzeros] at hsplit
  have htail : (gs.drop start).dropWhile (· == 0) = gs.drop (start + count) := by
    calc (gs.drop start).dropWhile (· == 0)
        = (List.replicate count 0 ++ (gs.drop start).dropWhile (· == 0)).drop count :=
          (List.drop_left' List.length_replicate).symm
      _ = gs.drop (start + count) := by rw [hsplit, List.drop_drop]
  rw [← htail, List.append_assoc, hsplit, List.take_append_drop]

theorem add_le_length_of_zerosFrom (h : zerosFrom gs start = count) (hc : 0 < count) :
    start + count ≤ gs.length := by
  have hlen := (List.takeWhile_sublist (p := (· == 0)) (l := gs.drop start)).length_le
  rw [zerosFrom] at h
  rw [h, List.length_drop] at hlen
  omega

/-! ## Numbers -/

theorem octet?_decimal (h : n < 256) : octet? (decimal n) = some n := by
  have hlen : (decimal n).length ≤ 3 :=
    (Nat.length_toDigits_le_iff (by decide) (by decide)).mpr (by omega)
  have hzero : (decimal n).head? = some '0' → (decimal n).length = 1 := by
    intro hhead
    rw [head?_toDigits (by decide) (by decide) hhead]
    rfl
  rw [octet?, if_pos ⟨hlen, hzero⟩, decimal, natural?_toDigits (by decide) (by decide)]
  simpa using h

theorem group?_hexadecimal (h : n < 65536) : group? (hexadecimal n) = some n := by
  have hlen : (hexadecimal n).length ≤ 4 :=
    (Nat.length_toDigits_le_iff (by decide) (by decide)).mpr (by omega)
  rw [group?, if_pos hlen, hexadecimal, natural?_toDigits (by decide) (by decide)]

theorem mapM_octet?_decimal {os : List Nat} (h : ∀ n ∈ os, n < 256) :
    (os.map decimal).mapM octet? = some os := by
  induction os with
  | nil => rfl
  | cons n rest ih =>
    rw [List.map_cons, List.mapM_cons, octet?_decimal (h n (List.mem_cons_self ..)),
      ih fun m hm => h m (List.mem_cons_of_mem n hm)]
    rfl

/-- `dotted` writes a text that denotes `n`. -/
theorem spellsDotted_dotted (h : n < 256 ^ 4) : SpellsDotted (dotted (places 256 4 n)) n := by
  refine ⟨(places 256 4 n).map decimal, places 256 4 n, rfl, ?_, length_places .., ?_⟩
  · exact mapM_octet?_decimal fun m hm => lt_of_mem_places (by decide) hm
  · rw [ofPlaces_places, Nat.mod_eq_of_lt h]

theorem spellsGroups_colons (hne : gs ≠ []) (h : ∀ g ∈ gs, g < 65536) :
    SpellsGroups mixed (colons gs) gs := by
  induction gs with
  | nil => exact absurd rfl hne
  | cons g rest ih =>
    have hg := group?_hexadecimal (h g (List.mem_cons_self ..))
    cases rest with
    | nil =>
      have hlast : SpellsGroups mixed (hexadecimal g) [g] := .last hg
      simpa [colons] using hlast
    | cons g' rest =>
      have hrest := ih (List.cons_ne_nil _ _) fun m hm => h m (List.mem_cons_of_mem g hm)
      have hcons := SpellsGroups.cons hg hrest
      rwa [colons, List.map_cons, List.map_cons, List.intercalate_cons_cons, List.append_assoc]

theorem spellsSide_colons (h : ∀ g ∈ gs, g < 65536) : SpellsSide mixed (colons gs) gs := by
  by_cases hne : gs = []
  · subst hne
    exact .inl ⟨rfl, rfl⟩
  · exact .inr (spellsGroups_colons hne h)

/-! ## Addresses -/

/-- `Written a text`: `text` is what is written for `a`: the dotted form for an IPv4 address; for an
IPv6 address that stands for an IPv4 one the dotted form in its place; for any other the groups,
with the first among the longest runs of at least two zero groups left out. -/
inductive Written (a : Address) : List Char → Prop
  | dotted (hf : a.family = .ipv4) : Written a (['.'].intercalate (a.octets.map decimal))
  | mapped (hf : a.family = .ipv6) (hm : a.value / Family.ipv4.size = 0xFFFF) :
    Written a ("::ffff:".toList ++
      ['.'].intercalate ((places 256 4 (a.value % Family.ipv4.size)).map decimal))
  | full (hf : a.family = .ipv6) (hm : a.value / Family.ipv4.size ≠ 0xFFFF)
    (h : ∀ i, zerosFrom a.groups i < 2) : Written a ([':'].intercalate (a.groups.map hexadecimal))
  | gap {start count : Nat} (hf : a.family = .ipv6) (hm : a.value / Family.ipv4.size ≠ 0xFFFF)
    (h : IsFirstLongest a.groups start count) (hc : 2 ≤ count) :
    Written a ([':'].intercalate ((a.groups.take start).map hexadecimal) ++ [':', ':'] ++
      [':'].intercalate ((a.groups.drop (start + count)).map hexadecimal))

theorem isMapped_iff : a.isMapped = true ↔
    a.family = .ipv6 ∧ a.value / Family.ipv4.size = 0xFFFF := by
  simp [isMapped]

theorem compressed_of_lt (h : (longestZeros gs).2 < 2) : compressed gs = colons gs := by
  simp only [compressed, if_pos h]

theorem compressed_of_le (h : 2 ≤ (longestZeros gs).2) :
    compressed gs = colons (gs.take (longestZeros gs).1) ++ [':', ':'] ++
      colons (gs.drop ((longestZeros gs).1 + (longestZeros gs).2)) := by
  simp only [compressed, if_neg (Nat.not_lt.mpr h)]

theorem chars_of_ipv4 (hf : a.family = .ipv4) : a.chars = dotted a.octets := by
  simp only [chars, hf]

theorem chars_of_mapped (hf : a.family = .ipv6) (hm : a.value / Family.ipv4.size = 0xFFFF) :
    a.chars = "::ffff:".toList ++ dotted (places 256 4 (a.value % Family.ipv4.size)) := by
  simp only [chars, hf, isMapped_iff.mpr ⟨hf, hm⟩, if_true]

theorem chars_of_not_mapped (hf : a.family = .ipv6) (hm : a.value / Family.ipv4.size ≠ 0xFFFF) :
    a.chars = compressed a.groups := by
  have hmapped : ¬ a.isMapped = true := fun h => hm (isMapped_iff.mp h).2
  simp only [chars, hf, if_neg hmapped]

/-- `a.chars` is the one way to write `a`. -/
theorem written_iff : Written a text ↔ text = a.chars := by
  constructor
  · intro h
    cases h with
    | dotted hf => exact (chars_of_ipv4 hf).symm
    | mapped hf hm => exact (chars_of_mapped hf hm).symm
    | full hf hm h =>
      have hlongest := isFirstLongest_longestZeros a.groups
      rw [chars_of_not_mapped hf hm, compressed_of_lt (hlongest.zeros ▸ h _)]
      rfl
    | gap hf hm h hc =>
      obtain ⟨hstart, hcount⟩ := h.unique (isFirstLongest_longestZeros a.groups)
      rw [chars_of_not_mapped hf hm, compressed_of_le (hcount.symm ▸ hc), hstart, hcount]
      rfl
  · rintro rfl
    cases hf : a.family with
    | ipv4 =>
      rw [chars_of_ipv4 hf]
      exact .dotted hf
    | ipv6 =>
      by_cases hm : a.value / Family.ipv4.size = 0xFFFF
      · rw [chars_of_mapped hf hm]
        exact .mapped hf hm
      · have hlongest := isFirstLongest_longestZeros a.groups
        rw [chars_of_not_mapped hf hm]
        by_cases hc : (longestZeros a.groups).2 < 2
        · rw [compressed_of_lt hc]
          exact .full hf hm fun i => Nat.lt_of_le_of_lt (hlongest.longest i) hc
        · rw [compressed_of_le (Nat.le_of_not_lt hc)]
          exact .gap hf hm hlongest (Nat.le_of_not_lt hc)

theorem lt_of_mem_groups {g : Nat} (h : g ∈ a.groups) : g < 65536 := lt_of_mem_places (by decide) h

theorem ofPlaces_groups (hf : a.family = .ipv6) : ofPlaces 65536 a.groups = a.value := by
  have hv := a.value_lt
  rw [hf] at hv
  rw [groups, ofPlaces_places]
  exact Nat.mod_eq_of_lt hv

theorem spellsColons_compressed (hf : a.family = .ipv6) :
    SpellsColons (compressed a.groups) a.value := by
  have hlen : a.groups.length = 8 := length_places ..
  by_cases hc : (longestZeros a.groups).2 < 2
  · have hne : a.groups ≠ [] := List.ne_nil_of_length_pos (by omega)
    rw [compressed_of_lt hc, ← ofPlaces_groups hf]
    exact .full (spellsGroups_colons hne fun g => lt_of_mem_groups) hlen
  -- The gap stands for the zeros that are left out, so the groups around it make up the number.
  · have hlongest := isFirstLongest_longestZeros a.groups
    rw [compressed_of_le (Nat.le_of_not_lt hc)]
    generalize (longestZeros a.groups).1 = start at *
    generalize (longestZeros a.groups).2 = count at *
    have hle := add_le_length_of_zerosFrom hlongest.zeros (by omega)
    have hgap : SpellsColons (colons (a.groups.take start) ++
        ':' :: ':' :: colons (a.groups.drop (start + count))) _ := .gap
      (spellsSide_colons fun g hg => lt_of_mem_groups (List.mem_of_mem_take hg))
      (spellsSide_colons fun g hg => lt_of_mem_groups (List.mem_of_mem_drop hg))
      (by rw [List.length_take, List.length_drop]; omega)
    have hmissing : 8 - (a.groups.take start).length - (a.groups.drop (start + count)).length =
        count := by
      rw [List.length_take, List.length_drop]
      omega
    rw [hmissing, ← eq_take_append_drop hlongest.zeros, ofPlaces_groups hf] at hgap
    rw [List.append_assoc]
    exact hgap

/-- An IPv4 address with the number `w` in the place of the last two groups. -/
theorem spellsColons_mapped {w : Nat} (h : w < 256 ^ 4) :
    SpellsColons ("::ffff:".toList ++ dotted (places 256 4 w)) (0xFFFF * 2 ^ 32 + w) := by
  have hw : dotted? (dotted (places 256 4 w)) = some w :=
    dotted?_eq_some_iff.mpr (spellsDotted_dotted h)
  have hgap : SpellsColons ([] ++ ':' :: ':' :: _) _ := .gap (.inl ⟨rfl, rfl⟩)
    (.inr (.cons (show group? ['f', 'f', 'f', 'f'] = some 0xFFFF by decide) (.dotted rfl hw)))
    (by simp)
  have hvalue : 0xFFFF * 2 ^ 32 + w = ofPlaces 65536 ([] ++ List.replicate
      (8 - ([] : List Nat).length - (0xFFFF :: places 65536 2 w).length) 0 ++
        0xFFFF :: places 65536 2 w) := by
    simp only [places, ofPlaces, List.length_nil, List.length_cons,
      List.nil_append, List.replicate, List.cons_append, List.foldl_cons, List.foldl_nil]
    omega
  rw [hvalue]
  exact hgap

/-- `a.chars` denotes `a`. -/
theorem spells_chars (a : Address) : Spells a.chars a := by
  have hv := a.value_lt
  unfold Spells
  split
  · next hf =>
    rw [hf] at hv
    rw [chars_of_ipv4 hf]
    exact spellsDotted_dotted hv
  · next hf =>
    by_cases hm : a.value / Family.ipv4.size = 0xFFFF
    · have hvalue : 0xFFFF * 2 ^ 32 + a.value % Family.ipv4.size = a.value := by
        have hdiv := Nat.div_add_mod a.value Family.ipv4.size
        rw [hm, Nat.mul_comm] at hdiv
        exact hdiv
      have hmapped : SpellsColons _ (0xFFFF * 2 ^ 32 + a.value % Family.ipv4.size) :=
        spellsColons_mapped (Nat.mod_lt a.value Family.ipv4.size_pos)
      rw [chars_of_mapped hf hm]
      rwa [hvalue] at hmapped
    · rw [chars_of_not_mapped hf hm]
      exact spellsColons_compressed hf

/-- `ofChars?` reads back `a.chars`. -/
theorem ofChars?_chars (a : Address) : ofChars? a.chars = some a :=
  ofChars?_eq_some_iff.mpr (spells_chars a)

/-! ## What is not in an address -/

/-- `c` is in no text of an address. -/
def IsMark (c : Char) : Prop := digit? 16 c = none ∧ c ≠ '.' ∧ c ≠ ':'

instance (c : Char) : Decidable (IsMark c) := inferInstanceAs (Decidable (_ ∧ _))

theorem IsMark.digit?_ten {c : Char} (hc : IsMark c) : digit? 10 c = none := by
  by_contra hdigit
  obtain ⟨d, hd⟩ := Option.ne_none_iff_exists'.mp hdigit
  obtain ⟨hvalue, hlt⟩ := Option.filter_eq_some_iff.mp hd
  have hlt : d < 10 := of_decide_eq_true hlt
  have h16 : digit? 16 c = some d :=
    Option.filter_eq_some_iff.mpr ⟨hvalue, decide_eq_true (by omega)⟩
  cases hc.1.symm.trans h16

theorem IsMark.notMem_of_dotted? {c : Char} (hc : IsMark c) (h : dotted? text = some n) :
    c ∉ text := Address.notMem_of_dotted? hc.digit?_ten hc.2.1 h

theorem IsMark.notMem_of_groups {c : Char} (hc : IsMark c) (h : SpellsGroups mixed text gs) :
    c ∉ text := by
  induction h with
  | last h => exact notMem_of_group? hc.1 h
  | dotted hm h => exact hc.notMem_of_dotted? h
  | cons h hrest ih =>
    simp only [List.mem_append, List.mem_cons, not_or]
    exact ⟨notMem_of_group? hc.1 h, hc.2.2, ih⟩

theorem IsMark.notMem_of_side {c : Char} (hc : IsMark c) (h : SpellsSide mixed text gs) :
    c ∉ text := by
  rcases h with ⟨rfl, -⟩ | h
  · exact List.not_mem_nil
  · exact hc.notMem_of_groups h

theorem IsMark.notMem_of_colons {c : Char} (hc : IsMark c) (h : SpellsColons text n) :
    c ∉ text := by
  cases h with
  | full h hlen => exact hc.notMem_of_groups h
  | gap hl hr hlen =>
    simp only [List.mem_append, List.mem_cons, not_or]
    exact ⟨hc.notMem_of_side hl, hc.2.2, hc.2.2, hc.notMem_of_side hr⟩

/-- A mark `c` is not in a text that denotes an address: digits, dots and colons are. -/
theorem IsMark.notMem_of_spells {c : Char} (hc : IsMark c) (h : Spells text a) : c ∉ text := by
  unfold Spells at h
  split at h
  · exact hc.notMem_of_dotted? (dotted?_eq_some_iff.mpr h)
  · exact hc.notMem_of_colons h

theorem IsMark.notMem_chars {c : Char} (hc : IsMark c) (a : Address) : c ∉ a.chars :=
  hc.notMem_of_spells (spells_chars a)

/-- A blank `c` is no part of an address. -/
theorem isMark_of_isBlank {c : Char} (h : isBlank c = true) : IsMark c := by
  refine ⟨digit?_of_isBlank h, ?_, ?_⟩
  · rintro rfl
    exact absurd h (by decide)
  · rintro rfl
    exact absurd h (by decide)

theorem isBlank_of_mem_chars {c : Char} {a : Address} (hc : c ∈ a.chars) : isBlank c = false := by
  by_contra hblank
  exact (isMark_of_isBlank (by simpa using hblank)).notMem_chars a hc

end SplitTunnel.Net.Address
