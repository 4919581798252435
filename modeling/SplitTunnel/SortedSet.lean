/-!
# Sorted sets

A finite set of values with a total order, held as a list in strictly ascending order, so two sets
with the same members are equal. The selected app identifiers of a profile (`SPEC_FULL.md` §3) are
such a set.

* `SortedSet.insert`, `SortedSet.erase`: one member more or less.
* `SortedSet.ofList`: the members of any list.
-/

namespace SplitTunnel

open Std

/-- Values of `α` in strictly ascending order. -/
structure SortedSet (α : Type) [Ord α] where
  toList : List α
  ascending : toList.Pairwise fun a b => compare a b = .lt

namespace SortedSet

variable {α : Type} [Ord α]

instance [DecidableEq α] : DecidableEq (SortedSet α) := fun s t =>
  decidable_of_iff (s.toList = t.toList) (by cases s; cases t; simp)

instance [Repr α] : Repr (SortedSet α) := ⟨fun s n => reprPrec s.toList n⟩

/-- The set without a member. -/
def empty : SortedSet α := ⟨[], List.Pairwise.nil⟩

instance : Inhabited (SortedSet α) := ⟨empty⟩

/-- Puts `x` in its place among ascending values, unless it is there. -/
def insertList (x : α) : List α → List α
  | [] => [x]
  | y :: ys =>
    match compare x y with
    | .lt => x :: y :: ys
    | .eq => y :: ys
    | .gt => y :: insertList x ys

theorem mem_insertList_cases {x z : α} {l : List α} (h : z ∈ insertList x l) : z = x ∨ z ∈ l := by
  induction l with
  | nil => simpa [insertList] using h
  | cons y ys ih =>
    simp only [insertList] at h
    split at h
    · simpa using h
    · exact Or.inr h
    · rcases List.mem_cons.mp h with rfl | h
      · exact Or.inr (by simp)
      · rcases ih h with rfl | h
        · exact Or.inl rfl
        · exact Or.inr (by simp [h])

theorem pairwise_insertList [TransOrd α] {x : α} {l : List α}
    (h : l.Pairwise fun a b => compare a b = .lt) :
    (insertList x l).Pairwise fun a b => compare a b = .lt := by
  induction l with
  | nil => exact List.pairwise_singleton ..
  | cons y ys ih =>
    obtain ⟨hy, hys⟩ := List.pairwise_cons.mp h
    simp only [insertList]
    split
    · next hxy =>
      refine List.pairwise_cons.mpr ⟨fun z hz => ?_, h⟩
      rcases List.mem_cons.mp hz with rfl | hz
      · exact hxy
      · exact TransCmp.lt_trans hxy (hy z hz)
    · exact h
    · next hxy =>
      refine List.pairwise_cons.mpr ⟨fun z hz => ?_, ih hys⟩
      rcases mem_insertList_cases hz with rfl | hz
      · exact OrientedCmp.gt_iff_lt.mp hxy
      · exact hy z hz

/-- The members of `s` and `x`. -/
def insert [TransOrd α] (s : SortedSet α) (x : α) : SortedSet α :=
  ⟨insertList x s.toList, pairwise_insertList s.ascending⟩

/-- The members of `s` other than `x`. -/
def erase [DecidableEq α] (s : SortedSet α) (x : α) : SortedSet α :=
  ⟨s.toList.filter (· ≠ x), s.ascending.filter _⟩

/-- The set with the one member `x`. -/
def singleton (x : α) : SortedSet α := ⟨[x], List.pairwise_singleton ..⟩

/-- The set of the values `xs`. -/
def ofList [TransOrd α] (xs : List α) : SortedSet α := xs.foldl insert empty

/-- `s` has no member. -/
def isEmpty (s : SortedSet α) : Bool := s.toList.isEmpty

instance : Membership α (SortedSet α) := ⟨fun s x => x ∈ s.toList⟩

theorem mem_iff {s : SortedSet α} {x : α} : x ∈ s ↔ x ∈ s.toList := Iff.rfl

theorem mem_insertList [LawfulEqOrd α] {x z : α} {l : List α} (h : z = x ∨ z ∈ l) :
    z ∈ insertList x l := by
  induction l with
  | nil => simpa [insertList] using h
  | cons y ys ih =>
    simp only [insertList]
    split
    · simpa using h
    · next hxy =>
      have : x = y := LawfulEqCmp.eq_of_compare hxy
      subst this
      simpa using h
    · simp only [List.mem_cons] at h ⊢
      rcases h with h | h | h
      · exact Or.inr (ih (Or.inl h))
      · exact Or.inl h
      · exact Or.inr (ih (Or.inr h))

@[simp] theorem mem_insert [TransOrd α] [LawfulEqOrd α] {s : SortedSet α} {x z : α} :
    z ∈ s.insert x ↔ z = x ∨ z ∈ s :=
  ⟨mem_insertList_cases, mem_insertList⟩

@[simp] theorem mem_erase [DecidableEq α] {s : SortedSet α} {x z : α} :
    z ∈ s.erase x ↔ z ∈ s ∧ z ≠ x := by
  simp [mem_iff, erase]

@[simp] theorem mem_singleton {x z : α} : z ∈ singleton x ↔ z = x := by
  simp [mem_iff, singleton]

/-- A value `x` after all of `l` is put at the end. -/
theorem insertList_of_lt [OrientedOrd α] {x : α} {l : List α} (h : ∀ y ∈ l, compare y x = .lt) :
    insertList x l = l ++ [x] := by
  induction l with
  | nil => rfl
  | cons y ys ih =>
    have hxy : compare x y = .gt := OrientedCmp.gt_of_lt (h y (by simp))
    rw [insertList, hxy, ih fun z hz => h z (by simp [hz])]
    rfl

theorem toList_foldl_insert [TransOrd α] {l : List α} {s : SortedSet α}
    (h : (s.toList ++ l).Pairwise fun a b => compare a b = .lt) :
    (l.foldl insert s).toList = s.toList ++ l := by
  induction l generalizing s with
  | nil => simp
  | cons x rest ih =>
    have hinsert : (s.insert x).toList = s.toList ++ [x] :=
      insertList_of_lt fun y hy => (List.pairwise_append.mp h).2.2 y hy x (by simp)
    rw [List.foldl_cons, ih (by rw [hinsert]; simpa using h), hinsert]
    simp

theorem eq_of_toList_eq {s t : SortedSet α} (h : s.toList = t.toList) : s = t := by
  cases s
  cases t
  cases h
  rfl

/-- The members of `s` make up `s`. -/
@[simp] theorem ofList_toList [TransOrd α] (s : SortedSet α) : ofList s.toList = s :=
  eq_of_toList_eq (toList_foldl_insert (by simpa [empty] using s.ascending))

end SortedSet

end SplitTunnel
