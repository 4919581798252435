import SplitTunnel.Net.AddressSet.Text
import Mathlib.Data.List.Basic

/-!
# What the text of a set denotes (`SPEC_FULL.md` §4.1, parsing)

An item denotes the addresses of a block or all addresses from one to another, and a text denotes
what its items do.

* `AddressSet.ItemDenotes`, `AddressSet.TextDenotes`: said without `Span` and `Runs`.
* `AddressSet.Item.denotes_iff`: an item that is read stands for what it denotes.
* `AddressSet.mem_of_parse`: so does a text.
-/

namespace SplitTunnel.Net.AddressSet

open Text

/-- `item`, which stands between blanks, denotes `a`. Without a dash `a` is in the block that `item`
spells; with one it is from `lo` before the dash to `hi` after it, all of one family. -/
def ItemDenotes (item : List Char) (a : Address) : Prop :=
  ('-' ∉ item ∧ ∃ b, Block.ofChars item = .ok b ∧ a ∈ b) ∨
  ∃ start stop lo hi, item = start ++ '-' :: stop ∧ '-' ∉ start ∧
    Address.ofChars? start = some lo ∧ Address.ofChars? stop = some hi ∧
    a.family = lo.family ∧ a.family = hi.family ∧ lo.value ≤ a.value ∧ a.value ≤ hi.value

/-- `text` denotes `a`: one of its items does. -/
def TextDenotes (text : String) (a : Address) : Prop :=
  ∃ item ∈ words text.toList, ItemDenotes item a

theorem itemDenotes_of_notMem {item : List Char} {b : Block} {a : Address} (hd : '-' ∉ item)
    (hb : Block.ofChars item = .ok b) : ItemDenotes item a ↔ a ∈ b := by
  constructor
  · rintro (⟨-, b', hb', ha⟩ | ⟨start, stop, -, -, rfl, -⟩)
    · cases hb.symm.trans hb'
      exact ha
    · exact absurd (by simp) hd
  · exact fun ha => .inl ⟨hd, b, hb, ha⟩

theorem itemDenotes_of_cut {item start stop : List Char} {lo hi a : Address}
    (hcut : cut '-' item = some (start, stop)) (hlo : Address.ofChars? start = some lo)
    (hhi : Address.ofChars? stop = some hi) :
    ItemDenotes item a ↔
      a.family = lo.family ∧ a.family = hi.family ∧ lo.value ≤ a.value ∧ a.value ≤ hi.value := by
  obtain ⟨hitem, hn⟩ := cut_eq_some_iff.mp hcut
  constructor
  · rintro (⟨hd, -⟩ | ⟨start', stop', lo', hi', hitem', hn', hlo', hhi', h⟩)
    · exact absurd (by simp [hitem]) hd
    · obtain ⟨rfl, rfl⟩ : start = start' ∧ stop = stop' := by
        simpa using hcut.symm.trans (cut_eq_some_iff.mpr ⟨hitem', hn'⟩)
      cases hlo.symm.trans hlo'
      cases hhi.symm.trans hhi'
      exact h
  · exact fun h => .inr ⟨start, stop, lo, hi, hitem, hn, hlo, hhi, h⟩

theorem Item.of_between {item : List Char} {lo hi : Address} {i : Item}
    (h : Item.between item lo hi = .ok i) :
    lo.family = hi.family ∧ ∃ s : Span lo.family, i = ⟨lo.family, s⟩ ∧
      s.first = lo.value ∧ s.last = hi.value := by
  unfold Item.between at h
  split at h
  · next hf =>
    split at h
    · next s hs =>
      cases h
      unfold Span.of? at hs
      split at hs
      · cases hs
        exact ⟨hf, _, rfl, rfl, rfl⟩
      · cases hs
    · cases h
  · cases h

/-- The span of the item `i` that is read has the addresses that the characters of `item` denote. -/
theorem Item.denotes_iff {item : List Char} {i : Item} (h : Item.ofChars item = .ok i)
    (a : Address) : ItemDenotes item a ↔ a.family = i.family ∧ a.value ∈ i.span := by
  unfold Item.ofChars at h
  split at h
  · next hcut =>
    cases hb : Block.ofChars item with
    | error e => rw [hb] at h; cases h
    | ok b =>
      rw [hb] at h
      cases h
      exact itemDenotes_of_notMem (cut_eq_none_iff.mp hcut) hb
  · next start stop hcut =>
    split at h
    · next lo hi hlo hhi =>
      obtain ⟨hf, s, rfl, hfirst, hlast⟩ := Item.of_between h
      rw [itemDenotes_of_cut hcut hlo hhi, Span.mem_iff, hfirst, hlast, ← hf]
      simp
    · cases h

theorem mem_of_addItems {items : List (List Char)} {s t : AddressSet}
    (h : s.addItems items = .ok t) (a : Address) :
    a ∈ t ↔ a ∈ s ∨ ∃ item ∈ items, ItemDenotes item a := by
  induction items generalizing s with
  | nil =>
    cases h
    simp
  | cons item rest ih =>
    unfold addItems at h
    split at h
    · next i hi =>
      rw [ih h, mem_addSpan, ← Item.denotes_iff hi a]
      simp only [List.mem_cons, exists_eq_or_imp]
      rw [or_comm (a := ItemDenotes item a), or_assoc]
    · cases h

/-- `parse` gives the set of the addresses that `text` denotes. -/
theorem mem_of_parse {text : String} {s : AddressSet} (h : parse text = .ok s) (a : Address) :
    a ∈ s ↔ TextDenotes text a := by
  rw [mem_of_addItems h a]
  simp [TextDenotes]

end SplitTunnel.Net.AddressSet
