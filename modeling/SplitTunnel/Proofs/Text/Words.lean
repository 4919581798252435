import SplitTunnel.Text.Blank
import Mathlib.Data.List.Basic

/-!
# Words between blanks (`SPEC_FULL.md` §4.1, a whitespace-separated list)

* `Text.words_eq_singleton`, `Text.words_append_blanks`, `Text.words_intercalate`: the words of
  texts that are put together from words and blanks.
* `Text.Layout`: a text is laid out from words with blanks around them, and `Text.layout_iff`: it is
  from its words, and from no others.
-/

namespace SplitTunnel.Text

variable {c : Char} {blanks rest text w : List Char} {ws : List (List Char)}

theorem words_eq_singleton (hne : w ≠ []) (h : ∀ c ∈ w, isBlank c = false) : words w = [w] := by
  rw [words, List.splitOnP_eq_singleton h]
  simp [hne]

theorem words_cons_blank (hc : isBlank c = true) (rest : List Char) :
    words (c :: rest) = words rest := words_append_blank (s := []) hc

/-- `blanks` in front of `rest` make no word. -/
theorem words_append_blanks (h : ∀ c ∈ blanks, isBlank c = true) (rest : List Char) :
    words (blanks ++ rest) = words rest := by
  induction blanks with
  | nil => rfl
  | cons c blanks ih =>
    obtain ⟨hc, hblanks⟩ := List.forall_mem_cons.mp h
    rw [List.cons_append, words_cons_blank hc, ih hblanks]

/-- A word `w` in front of a blank is the first of the `words`. -/
theorem words_append_word (hne : w ≠ []) (hw : ∀ c ∈ w, isBlank c = false)
    (hrest : ∀ c ∈ rest.head?, isBlank c = true) : words (w ++ rest) = w :: words rest := by
  cases rest with
  | nil => rw [List.append_nil, words_eq_singleton hne hw, words_nil]
  | cons c rest =>
    have hc : isBlank c = true := hrest c rfl
    rw [words_append_blank hc, words_cons_blank hc, words_eq_singleton hne hw]
    rfl

/-- `words` finds the words `ws` again between single blanks. -/
theorem words_intercalate (h : ∀ w ∈ ws, w ≠ [] ∧ ∀ c ∈ w, isBlank c = false) :
    words ([' '].intercalate ws) = ws := by
  induction ws with
  | nil => rfl
  | cons w rest ih =>
    obtain ⟨hne, hw⟩ := h w (List.mem_cons_self ..)
    have hrest := ih fun v hv => h v (List.mem_cons_of_mem w hv)
    cases rest with
    | nil => rw [List.intercalate_singleton, words_eq_singleton hne hw]
    | cons v rest =>
      rw [List.intercalate_cons_cons, List.append_assoc, List.singleton_append,
        words_append_blank (by decide), words_eq_singleton hne hw, hrest]
      rfl

/-! ## Layouts -/

/-- `Layout text ws`: `text` is the words `ws` in order, with blanks around them and at least one
between two. -/
inductive Layout : List Char → List (List Char) → Prop
  | blanks {text : List Char} (h : ∀ c ∈ text, isBlank c = true) : Layout text []
  | word {left w rest : List Char} {ws : List (List Char)} (hleft : ∀ c ∈ left, isBlank c = true)
    (hne : w ≠ []) (hw : ∀ c ∈ w, isBlank c = false) (hrest : ∀ c ∈ rest.head?, isBlank c = true)
    (h : Layout rest ws) : Layout (left ++ (w ++ rest)) (w :: ws)

theorem Layout.words_eq (h : Layout text ws) : words text = ws := by
  induction h with
  | blanks h => simpa using words_append_blanks h []
  | word hleft hne hw hrest h ih =>
    rw [words_append_blanks hleft, words_append_word hne hw hrest, ih]

theorem Layout.cons_blank (h : Layout text ws) (hc : isBlank c = true) :
    Layout (c :: text) ws := by
  cases h with
  | blanks h => exact .blanks (List.forall_mem_cons.mpr ⟨hc, h⟩)
  | word hleft hne hw hrest h =>
    exact .word (List.forall_mem_cons.mpr ⟨hc, hleft⟩) hne hw hrest h

/-- A character `c` that is no blank begins the first word of `ws`, or is a word before it. -/
theorem Layout.exists_cons (h : Layout text ws) (hc : isBlank c = false) :
    ∃ ws', Layout (c :: text) ws' := by
  have hword : ∀ d ∈ [c], isBlank d = false := by simpa using hc
  have hnone : ∀ d ∈ ([] : List Char), isBlank d = true := nofun
  cases h with
  | blanks h =>
    have hhead : ∀ d ∈ text.head?, isBlank d = true := fun d hd => h d (List.mem_of_head? hd)
    exact ⟨_, .word hnone (List.cons_ne_nil c []) hword hhead (.blanks h)⟩
  | @word left w rest ws hleft hne hw hrest h =>
    cases left with
    | nil =>
      exact ⟨_, .word hnone (List.cons_ne_nil c w) (List.forall_mem_cons.mpr ⟨hc, hw⟩) hrest h⟩
    | cons d left =>
      have hhead : ∀ e ∈ (d :: left ++ (w ++ rest)).head?, isBlank e = true := by
        simpa using hleft d (List.mem_cons_self ..)
      exact ⟨_, .word hnone (List.cons_ne_nil c []) hword hhead (.word hleft hne hw hrest h)⟩

theorem exists_layout (text : List Char) : ∃ ws, Layout text ws := by
  induction text with
  | nil => exact ⟨[], .blanks nofun⟩
  | cons c text ih =>
    obtain ⟨ws, h⟩ := ih
    cases hc : isBlank c with
    | true => exact ⟨ws, h.cons_blank hc⟩
    | false => exact h.exists_cons hc

/-- Every `text` is laid out from `words text`, and from no other words. -/
theorem layout_iff : Layout text ws ↔ ws = words text := by
  constructor
  · exact fun h => h.words_eq.symm
  · rintro rfl
    obtain ⟨ws, h⟩ := exists_layout text
    exact h.words_eq.symm ▸ h

end SplitTunnel.Text
