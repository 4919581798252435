/-!
# Cutting a text at a mark

How the items `addr/prefix` and `from-to` of `SPEC_FULL.md` §4.1 are taken apart, and the colon form
of IPv6 addresses.

* `cut`: the parts of a text before and after the first occurrence of a character.
* `cutGap`: the parts before and after the first occurrence of a character written twice.
-/

namespace SplitTunnel.Text

/-- The parts of the text before and after the first `mark`, if there is one. -/
def cut (mark : Char) : List Char → Option (List Char × List Char)
  | [] => none
  | c :: cs => if c = mark then some ([], cs) else (cut mark cs).map fun (a, b) => (c :: a, b)

/-- `cut` loses nothing of `s` but the mark, and `mark` is not in the first part. -/
theorem cut_eq_some_iff {mark : Char} {s a b : List Char} :
    cut mark s = some (a, b) ↔ s = a ++ mark :: b ∧ mark ∉ a := by
  induction s generalizing a with
  | nil => simp [cut]
  | cons c cs ih =>
    by_cases h : c = mark
    · subst h
      cases a with
      | nil => simp [cut]
      | cons d ds =>
        simp only [cut, if_true, Option.some.injEq, Prod.mk.injEq, List.nil_eq, reduceCtorEq,
          false_and, List.cons_append, List.cons.injEq, List.mem_cons, not_or, false_iff, not_and]
        exact fun h hn => absurd h.1 hn
    · cases a with
      | nil => simp [cut, h]
      | cons d ds =>
        simp only [cut, h, if_false, Option.map_eq_some_iff, Prod.mk.injEq, List.cons.injEq,
          Prod.exists]
        constructor
        · rintro ⟨x, y, hxy, ⟨rfl, rfl⟩, rfl⟩
          obtain ⟨rfl, hn⟩ := ih.mp hxy
          exact ⟨by simp, by simp [hn, Ne.symm h]⟩
        · rintro ⟨hcs, hn⟩
          simp only [List.cons_append, List.cons.injEq] at hcs
          obtain ⟨rfl, rfl⟩ := hcs
          exact ⟨ds, b, ih.mpr ⟨rfl, fun hm => hn (by simp [hm])⟩, ⟨rfl, rfl⟩, rfl⟩

/-- `s` is not cut exactly when it does not have `mark`. -/
theorem cut_eq_none_iff {mark : Char} {s : List Char} : cut mark s = none ↔ mark ∉ s := by
  induction s with
  | nil => simp [cut]
  | cons c cs ih =>
    by_cases h : c = mark
    · simp [cut, h]
    · simp [cut, h, ih, Ne.symm h]

/-- The parts of the text before and after the first place where `mark` stands twice in a row. -/
def cutGap (mark : Char) : List Char → Option (List Char × List Char)
  | c :: d :: cs =>
    if c = mark ∧ d = mark then some ([], cs)
    else (cutGap mark (d :: cs)).map fun (a, b) => (c :: a, b)
  | _ => none

end SplitTunnel.Text
