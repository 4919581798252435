import SplitTunnel.Net.Address.Parser
import SplitTunnel.Proofs.Text.Numeral

/-!
# Which texts denote an address (`SPEC_FULL.md` §3, IP range, and §4.1, parsing)

`Address.ofChars?` cuts a text into parts. Here texts are put together from parts instead.

* `Address.SpellsDotted`, `Address.SpellsGroups`: four numbers between dots; groups between
  colons, the last two of which may be in dotted form.
* `Address.Spells`: the texts that denote an address.
* `Address.ofChars?_eq_some_iff`: reading accepts these and no other.
-/

namespace SplitTunnel

namespace Text

variable {mark c : Char} {s part rest a b : List Char}

/-! ## Gaps -/

theorem eq_of_cutGap (h : cutGap mark s = some (a, b)) : s = a ++ mark :: mark :: b := by
  fun_induction cutGap mark s generalizing a with
  | case1 c d cs hcd =>
    cases h
    rw [hcd.1, hcd.2]
    rfl
  | case2 c d cs hcd ih =>
    obtain ⟨⟨a', b'⟩, hcut, heq⟩ := Option.map_eq_some_iff.mp h
    cases heq
    rw [ih hcut]
    rfl
  | case3 => cases h

theorem cutGap_cons_of_ne (hc : c ≠ mark) (s : List Char) :
    cutGap mark (c :: s) = (cutGap mark s).map fun (a, b) => (c :: a, b) := by
  cases s with
  | nil => rfl
  | cons d cs => rw [cutGap, if_neg fun h => hc h.1]

theorem cutGap_of_notMem (h : mark ∉ s) : cutGap mark s = none := by
  induction s with
  | nil => rfl
  | cons c s ih =>
    obtain ⟨hc, hs⟩ := not_or.mp (List.mem_cons.not.mp h)
    rw [cutGap_cons_of_ne (Ne.symm hc), ih hs]
    rfl

/-- `cutGap` cuts at the first gap, which comes after `part`. -/
theorem cutGap_append_gap (h : mark ∉ part) (rest : List Char) :
    cutGap mark (part ++ mark :: mark :: rest) = some (part, rest) := by
  induction part with
  | nil => simp [cutGap]
  | cons c part ih =>
    obtain ⟨hc, hpart⟩ := not_or.mp (List.mem_cons.not.mp h)
    rw [List.cons_append, cutGap_cons_of_ne (Ne.symm hc), ih hpart]
    rfl

/-- A single `mark` after `part` is no gap. -/
theorem cutGap_append_mark (h : mark ∉ part) (hrest : rest.head? ≠ some mark) :
    cutGap mark (part ++ mark :: rest) =
      (cutGap mark rest).map fun (a, b) => (part ++ mark :: a, b) := by
  induction part with
  | nil =>
    cases rest with
    | nil => rfl
    | cons d rest => simp_all [cutGap]
  | cons c part ih =>
    obtain ⟨hc, hpart⟩ := not_or.mp (List.mem_cons.not.mp h)
    rw [List.cons_append, cutGap_cons_of_ne (Ne.symm hc), ih hpart, Option.map_map]
    rfl

end Text

namespace Net.Address

open Text

variable {text part left right : List Char} {n g : Nat} {os gs ls rs : List Nat} {mixed : Bool}
  {a : Address}

/-! ## Numbers between dots -/

/-- `SpellsDotted text n`: `text` is four octets joined by dots, of the number `n`. -/
def SpellsDotted (text : List Char) (n : Nat) : Prop :=
  ∃ parts os, text = ['.'].intercalate parts ∧ parts.mapM octet? = some os ∧ os.length = 4 ∧
    n = ofPlaces 256 os

theorem notMem_of_octet? {c : Char} (hc : digit? 10 c = none) (h : octet? part = some n) :
    c ∉ part := by
  unfold octet? at h
  split at h
  · exact notMem_of_natural? (Option.filter_eq_some_iff.mp h).1 hc
  · cases h

theorem exists_octet?_of_mem {parts : List (List Char)} (h : parts.mapM octet? = some os)
    (hp : part ∈ parts) : ∃ n, octet? part = some n := by
  induction parts generalizing os with
  | nil => cases hp
  | cons q rest ih =>
    rw [List.mapM_cons] at h
    obtain ⟨n, hn, htail⟩ := Option.bind_eq_some_iff.mp h
    obtain ⟨ns, hns, -⟩ := Option.bind_eq_some_iff.mp htail
    rcases List.mem_cons.mp hp with rfl | hp
    · exact ⟨n, hn⟩
    · exact ih hns hp

theorem dotted?_eq_some_iff : dotted? text = some n ↔ SpellsDotted text n := by
  constructor
  · intro h
    obtain ⟨os, hos, hrest⟩ := Option.bind_eq_some_iff.mp h
    split at hrest
    · next hlen =>
      cases hrest
      exact ⟨text.splitOn '.', os, (List.intercalate_splitOn '.').symm, hos, hlen, rfl⟩
    · cases hrest
  · rintro ⟨parts, os, rfl, hos, hlen, rfl⟩
    have hdot : ∀ part ∈ parts, '.' ∉ part := by
      intro part hp
      obtain ⟨n, hn⟩ := exists_octet?_of_mem hos hp
      exact notMem_of_octet? (by decide) hn
    have hne : parts ≠ [] := by
      rintro rfl
      cases hos
      cases hlen
    rw [dotted?, List.splitOn_intercalate '.' hdot hne, hos]
    simp [hlen]

theorem mem_intercalate {c : Char} {mark : Char} {parts : List (List Char)}
    (h : c ∈ [mark].intercalate parts) : c = mark ∨ ∃ part ∈ parts, c ∈ part := by
  induction parts with
  | nil => cases h
  | cons q rest ih =>
    cases rest with
    | nil =>
      rw [List.intercalate_singleton] at h
      exact .inr ⟨q, List.mem_singleton.mpr rfl, h⟩
    | cons r rest =>
      rw [List.intercalate_cons_cons, List.mem_append, List.mem_append] at h
      rcases h with (h | h) | h
      · exact .inr ⟨q, List.mem_cons_self .., h⟩
      · exact .inl (List.mem_singleton.mp h)
      · exact (ih h).imp_right fun ⟨part, hp, hc⟩ => ⟨part, List.mem_cons_of_mem q hp, hc⟩

/-- A character `c` that is neither a digit nor a dot is not in a dotted form. -/
theorem notMem_of_dotted? {c : Char} (hc : digit? 10 c = none) (hdot : c ≠ '.')
    (h : dotted? text = some n) : c ∉ text := by
  obtain ⟨parts, os, rfl, hos, -, -⟩ := dotted?_eq_some_iff.mp h
  intro hmem
  rcases mem_intercalate hmem with rfl | ⟨part, hp, hcp⟩
  · exact hdot rfl
  · obtain ⟨n, hn⟩ := exists_octet?_of_mem hos hp
    exact notMem_of_octet? hc hn hcp

/-! ## Groups between colons -/

/-- `SpellsGroups mixed text gs`: `text` is the groups `gs` joined by colons. If `mixed`, a dotted
form may stand for the last two. -/
inductive SpellsGroups (mixed : Bool) : List Char → List Nat → Prop
  | last {part : List Char} {g : Nat} (h : group? part = some g) : SpellsGroups mixed part [g]
  | dotted {part : List Char} {n : Nat} (hm : mixed = true) (h : dotted? part = some n) :
    SpellsGroups mixed part (places 65536 2 n)
  | cons {part rest : List Char} {g : Nat} {gs : List Nat} (h : group? part = some g)
    (hrest : SpellsGroups mixed rest gs) : SpellsGroups mixed (part ++ ':' :: rest) (g :: gs)

theorem natural?_of_group? (h : group? part = some g) : natural? 16 part = some g := by
  unfold group? at h
  split at h
  · exact h
  · cases h

theorem notMem_of_group? {c : Char} (hc : digit? 16 c = none) (h : group? part = some g) :
    c ∉ part := notMem_of_natural? (natural?_of_group? h) hc

/-- A dotted form is read by `dotted?` and not by `group?`. -/
theorem group?_of_dotted? (h : dotted? part = some n) : group? part = none := by
  cases hg : group? part with
  | none => rfl
  | some g =>
    obtain ⟨parts, os, rfl, hos, hlen, -⟩ := dotted?_eq_some_iff.mp h
    exfalso
    refine notMem_of_group? (c := '.') (by decide) hg ?_
    match parts with
    | [] =>
      cases hos
      cases hlen
    | [q] =>
      rw [List.mapM_cons] at hos
      obtain ⟨n, -, htail⟩ := Option.bind_eq_some_iff.mp hos
      cases htail
      cases hlen
    | q :: r :: rest => simp

theorem SpellsGroups.ne_nil (h : SpellsGroups mixed text gs) : text ≠ [] ∧ gs ≠ [] := by
  cases h with
  | last h => exact ⟨(natural?_eq_some_iff.mp (natural?_of_group? h)).1, List.cons_ne_nil _ _⟩
  | dotted hm h =>
    refine ⟨?_, by simp [places]⟩
    rintro rfl
    cases (show dotted? [] = none by decide).symm.trans h
  | cons h hrest => exact ⟨by simp, List.cons_ne_nil _ _⟩

/-- A text that spells groups does not begin with a colon. -/
theorem SpellsGroups.head?_ne (h : SpellsGroups mixed text gs) : text.head? ≠ some ':' := by
  have hpart {part : List Char} {g : Nat} (h : group? part = some g) (rest : List Char) :
      (part ++ rest).head? ≠ some ':' := by
    have hne := (natural?_eq_some_iff.mp (natural?_of_group? h)).1
    rw [List.head?_append_of_ne_nil _ hne]
    intro hhead
    exact notMem_of_group? (by decide) h (List.mem_of_head? hhead)
  cases h with
  | last h => simpa using hpart h []
  | dotted hm h =>
    intro hhead
    exact notMem_of_dotted? (by decide) (by decide) h (List.mem_of_head? hhead)
  | cons h hrest => exact hpart h _

theorem SpellsGroups.cutGap_eq_none (h : SpellsGroups mixed text gs) : cutGap ':' text = none := by
  induction h with
  | last h => exact cutGap_of_notMem (notMem_of_group? (by decide) h)
  | dotted hm h => exact cutGap_of_notMem (notMem_of_dotted? (by decide) (by decide) h)
  | cons h hrest ih =>
    rw [cutGap_append_mark (notMem_of_group? (by decide) h) hrest.head?_ne, ih]
    rfl

/-- The first gap behind a text that spells groups is the one that is put there. -/
theorem SpellsGroups.cutGap_append (h : SpellsGroups mixed text gs) (rest : List Char) :
    cutGap ':' (text ++ ':' :: ':' :: rest) = some (text, rest) := by
  induction h with
  | last h => exact cutGap_append_gap (notMem_of_group? (by decide) h) rest
  | dotted hm h =>
    exact cutGap_append_gap (notMem_of_dotted? (by decide) (by decide) h) rest
  | @cons part text g gs h hrest ih =>
    have hhead : (text ++ ':' :: ':' :: rest).head? ≠ some ':' := by
      rw [List.head?_append_of_ne_nil _ hrest.ne_nil.1]
      exact hrest.head?_ne
    rw [List.append_assoc, List.cons_append,
      cutGap_append_mark (notMem_of_group? (by decide) h) hhead, ih]
    rfl

theorem groups?_cons {parts : List (List Char)} (hne : parts ≠ []) (mixed : Bool)
    (part : List Char) : groups? mixed (part :: parts) =
      (group? part).bind fun g => (groups? mixed parts).map (g :: ·) := by
  cases parts with
  | nil => exact absurd rfl hne
  | cons q rest =>
    rw [groups?]
    · cases group? part <;> cases groups? mixed (q :: rest) <;> rfl
    · simp

theorem spellsGroups_of_groups? {parts : List (List Char)} (hne : parts ≠ [])
    (h : groups? mixed parts = some gs) : SpellsGroups mixed ([':'].intercalate parts) gs := by
  induction parts generalizing gs with
  | nil => exact absurd rfl hne
  | cons part rest ih =>
    by_cases hrest : rest = []
    · subst hrest
      rw [List.intercalate_singleton]
      unfold groups? at h
      split at h
      · next g hg =>
        cases h
        exact .last hg
      · split at h
        · next hm =>
          obtain ⟨n, hn, rfl⟩ := Option.map_eq_some_iff.mp h
          exact .dotted hm hn
        · cases h
    · rw [groups?_cons hrest] at h
      obtain ⟨g, hg, htail⟩ := Option.bind_eq_some_iff.mp h
      obtain ⟨gs', hgs, rfl⟩ := Option.map_eq_some_iff.mp htail
      obtain ⟨q, rest, rfl⟩ := List.exists_cons_of_ne_nil hrest
      rw [List.intercalate_cons_cons, List.append_assoc, List.singleton_append]
      exact .cons hg (ih hrest hgs)

theorem groups?_splitOn_eq_some_iff :
    groups? mixed (text.splitOn ':') = some gs ↔ SpellsGroups mixed text gs := by
  constructor
  · intro h
    have hjoin : [':'].intercalate (text.splitOn ':') = text := List.intercalate_splitOn ':'
    rw [← hjoin]
    exact spellsGroups_of_groups? (List.splitOn_ne_nil _ _) h
  · intro h
    induction h with
    | last h =>
      rw [List.splitOn_eq_singleton (notMem_of_group? (by decide) h), groups?, h]
    | dotted hm h =>
      rw [List.splitOn_eq_singleton (notMem_of_dotted? (by decide) (by decide) h), groups?,
        group?_of_dotted? h, hm, h]
      rfl
    | cons h hrest ih =>
      rw [List.splitOn_append_cons_self_of_not_mem (notMem_of_group? (by decide) h),
        groups?_cons (List.splitOn_ne_nil _ _), h, ih]
      rfl

/-! ## Addresses -/

/-- `SpellsSide mixed text gs`: `text` spells the groups `gs` on one side of a gap, or is empty. -/
def SpellsSide (mixed : Bool) (text : List Char) (gs : List Nat) : Prop :=
  (text = [] ∧ gs = []) ∨ SpellsGroups mixed text gs

theorem side?_eq_some_iff : side? mixed text = some gs ↔ SpellsSide mixed text gs := by
  unfold side? SpellsSide
  by_cases ht : text = []
  · subst ht
    have hne : ¬ SpellsGroups mixed [] gs := fun h => h.ne_nil.1 rfl
    simp [hne, eq_comm]
  · simp [ht, groups?_splitOn_eq_some_iff]

/-- `SpellsColons text n`: `text` is the colon form of `n`. A gap stands for the groups that are
missing, and for at least one. -/
inductive SpellsColons : List Char → Nat → Prop
  | full {text : List Char} {gs : List Nat} (h : SpellsGroups true text gs)
    (hlen : gs.length = 8) : SpellsColons text (ofPlaces 65536 gs)
  | gap {left right : List Char} {ls rs : List Nat} (hl : SpellsSide false left ls)
    (hr : SpellsSide true right rs) (hlen : ls.length + rs.length ≤ 7) :
    SpellsColons (left ++ ':' :: ':' :: right)
      (ofPlaces 65536 (ls ++ List.replicate (8 - ls.length - rs.length) 0 ++ rs))

theorem SpellsSide.cutGap_append (h : SpellsSide false left ls) (right : List Char) :
    cutGap ':' (left ++ ':' :: ':' :: right) = some (left, right) := by
  rcases h with ⟨rfl, -⟩ | h
  · exact cutGap_append_gap List.not_mem_nil right
  · exact h.cutGap_append right

theorem colons?_eq_some_iff : colons? text = some n ↔ SpellsColons text n := by
  constructor
  · intro h
    unfold colons? at h
    split at h
    · obtain ⟨gs, hgs, hrest⟩ := Option.bind_eq_some_iff.mp h
      split at hrest
      · next hlen =>
        cases hrest
        exact .full (groups?_splitOn_eq_some_iff.mp hgs) hlen
      · cases hrest
    · next left right hcut =>
      obtain ⟨ls, hls, hrest⟩ := Option.bind_eq_some_iff.mp h
      obtain ⟨rs, hrs, hrest⟩ := Option.bind_eq_some_iff.mp hrest
      rw [eq_of_cutGap hcut]
      split at hrest
      · next hlen =>
        cases hrest
        exact .gap (side?_eq_some_iff.mp hls) (side?_eq_some_iff.mp hrs) hlen
      · cases hrest
  · intro h
    cases h with
    | full h hlen =>
      unfold colons?
      rw [h.cutGap_eq_none]
      dsimp only
      rw [groups?_splitOn_eq_some_iff.mpr h]
      simp [hlen]
    | gap hl hr hlen =>
      unfold colons?
      rw [hl.cutGap_append]
      dsimp only
      rw [side?_eq_some_iff.mpr hl, side?_eq_some_iff.mpr hr]
      simp [hlen]

/-- A text in colon form is not read by `dotted?`. -/
theorem SpellsColons.dotted?_eq_none (h : SpellsColons text n) : dotted? text = none := by
  have hcolon : ':' ∈ text := by
    cases h with
    | full h hlen =>
      cases h with
      | last h => cases hlen
      | dotted hm h => simp at hlen
      | cons h hrest => simp
    | gap hl hr hlen => simp
  cases hd : dotted? text with
  | none => rfl
  | some m => exact absurd hcolon (notMem_of_dotted? (by decide) (by decide) hd)

/-- `text` denotes the address `a`. -/
def Spells (text : List Char) (a : Address) : Prop :=
  match a.family with
  | .ipv4 => SpellsDotted text a.value
  | .ipv6 => SpellsColons text a.value

/-- `ofChars?` accepts the texts that denote an address, and no other. -/
theorem ofChars?_eq_some_iff : ofChars? text = some a ↔ Spells text a := by
  obtain ⟨f, v, hv⟩ := a
  unfold ofChars?
  cases f with
  | ipv4 =>
    show _ ↔ SpellsDotted text v
    rw [← dotted?_eq_some_iff]
    cases hd : dotted? text with
    | some n =>
      dsimp only
      rw [ofNat?_eq_some_iff]
      simp [eq_comm]
    | none =>
      simp only [reduceCtorEq, iff_false]
      intro h
      obtain ⟨n, -, hn⟩ := Option.bind_eq_some_iff.mp h
      cases (ofNat?_eq_some_iff.mp hn).1
  | ipv6 =>
    show _ ↔ SpellsColons text v
    constructor
    · intro h
      split at h
      · cases (ofNat?_eq_some_iff.mp h).1
      · obtain ⟨n, hn, hof⟩ := Option.bind_eq_some_iff.mp h
        obtain ⟨-, rfl⟩ := ofNat?_eq_some_iff.mp hof
        exact colons?_eq_some_iff.mp hn
    · intro h
      rw [h.dotted?_eq_none, colons?_eq_some_iff.mpr h]
      exact ofNat?_value ⟨.ipv6, v, hv⟩

end Net.Address

end SplitTunnel
