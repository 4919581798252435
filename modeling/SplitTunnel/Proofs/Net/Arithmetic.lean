import SplitTunnel.Proofs.Net.Text

/-!
# Set arithmetic is exact (`SPEC_FULL.md` §4.1, `add`, `remove` and their bulk forms)

A set is made by a `Term` of set operations, in which a set may be used more than once. What the
term denotes is said by union, difference and restriction of properties of addresses, without runs.

* `AddressSet.Term.eval`, `AddressSet.Term.Denotes`: the set that a term makes, and the addresses
  that it should have.
* `AddressSet.Term.eval_exact`: a term whose texts can be read makes a set with the addresses that
  it denotes, held as runs that are apart, and no operation with addresses of one family changes
  anything about the other.
-/

namespace SplitTunnel.Net

namespace AddressSet

/-- A way to make a set: one constructor for each operation on sets. -/
inductive Term where
  | new
  | add (t : Term) (b : Block)
  | addAll (t u : Term)
  | remove (t : Term) (b : Block)
  | removeAll (t u : Term)
  | extend (t : Term) (bs : List Block)
  | collect (bs : List Block)
  | restrict (t : Term) (f : Family)
  | parse (text : String)

namespace Term

/-- The set that a `Term` makes, unless one of its `texts` cannot be read. -/
def eval : Term → Except LiteralError AddressSet
  | new => .ok empty
  | add t b => do return (← t.eval).add b
  | addAll t u => do return (← t.eval).addAll (← u.eval)
  | remove t b => do return (← t.eval).remove b
  | removeAll t u => do return (← t.eval).removeAll (← u.eval)
  | extend t bs => do return (← t.eval).extend bs
  | collect bs => .ok (ofBlocks bs)
  | restrict t f => do return (← t.eval).restrict f
  | parse text => AddressSet.parse text

/-- `t.Denotes a`: `a` is one of the addresses that `t` stands for. -/
def Denotes : Term → Address → Prop
  | new, _ => False
  | add t b, a => t.Denotes a ∨ a ∈ b
  | addAll t u, a => t.Denotes a ∨ u.Denotes a
  | remove t b, a => t.Denotes a ∧ a ∉ b
  | removeAll t u, a => t.Denotes a ∧ ¬ u.Denotes a
  | extend t bs, a => t.Denotes a ∨ ∃ b ∈ bs, a ∈ b
  | collect bs, a => ∃ b ∈ bs, a ∈ b
  | restrict t f, a => t.Denotes a ∧ a.family = f
  | parse text, a => TextDenotes text a

/-- The texts that `eval` has to read for a `Term`. -/
def texts : Term → List String
  | new | collect _ => []
  | add t _ | remove t _ | extend t _ | restrict t _ => t.texts
  | addAll t u | removeAll t u => t.texts ++ u.texts
  | parse text => [text]

end Term

theorem mem_extend {s : AddressSet} {bs : List Block} {a : Address} :
    a ∈ s.extend bs ↔ a ∈ s ∨ ∃ b ∈ bs, a ∈ b := by
  induction bs generalizing s with
  | nil => simp [extend]
  | cons b rest ih =>
    have hstep : s.extend (b :: rest) = (s.add b).extend rest := rfl
    rw [hstep, ih, mem_add]
    simp only [List.mem_cons, exists_eq_or_imp]
    rw [or_comm (a := a ∈ b), or_assoc]

theorem mem_ofBlocks {bs : List Block} {a : Address} : a ∈ ofBlocks bs ↔ ∃ b ∈ bs, a ∈ b := by
  rw [ofBlocks, mem_extend]
  simp

/-- `eval` gives a set with the addresses that `t` stands for, if all `t.texts` can be read. -/
theorem Term.exists_eval {t : Term}
    (h : ∀ text ∈ t.texts, ∃ s, AddressSet.parse text = .ok s) :
    ∃ s, t.eval = .ok s ∧ ∀ a, a ∈ s ↔ t.Denotes a := by
  induction t with
  | new => exact ⟨empty, rfl, fun a => by simp [Denotes]⟩
  | add t b ih =>
    obtain ⟨s, hs, hm⟩ := ih h
    refine ⟨s.add b, by rw [eval, hs]; rfl, fun a => ?_⟩
    rw [mem_add, hm, or_comm]
    rfl
  | addAll t u iht ihu =>
    obtain ⟨s, hs, hm⟩ := iht fun text ht => h text (List.mem_append_left _ ht)
    obtain ⟨s', hs', hm'⟩ := ihu fun text ht => h text (List.mem_append_right _ ht)
    refine ⟨s.addAll s', by rw [eval, hs, hs']; rfl, fun a => ?_⟩
    rw [mem_addAll, hm, hm']
    rfl
  | remove t b ih =>
    obtain ⟨s, hs, hm⟩ := ih h
    refine ⟨s.remove b, by rw [eval, hs]; rfl, fun a => ?_⟩
    rw [mem_remove, hm]
    rfl
  | removeAll t u iht ihu =>
    obtain ⟨s, hs, hm⟩ := iht fun text ht => h text (List.mem_append_left _ ht)
    obtain ⟨s', hs', hm'⟩ := ihu fun text ht => h text (List.mem_append_right _ ht)
    refine ⟨s.removeAll s', by rw [eval, hs, hs']; rfl, fun a => ?_⟩
    rw [mem_removeAll, hm, hm']
    rfl
  | extend t bs ih =>
    obtain ⟨s, hs, hm⟩ := ih h
    refine ⟨s.extend bs, by rw [eval, hs]; rfl, fun a => ?_⟩
    rw [mem_extend, hm]
    rfl
  | collect bs => exact ⟨ofBlocks bs, rfl, fun a => mem_ofBlocks⟩
  | restrict t f ih =>
    obtain ⟨s, hs, hm⟩ := ih h
    refine ⟨s.restrict f, by rw [eval, hs]; rfl, fun a => ?_⟩
    rw [mem_restrict, hm, and_comm]
    rfl
  | parse text =>
    obtain ⟨s, hs⟩ := h text (List.mem_singleton.mpr rfl)
    exact ⟨s, hs, mem_of_parse hs⟩

/-- Every set that `eval` gives is held, per family, as spans inside the family's addresses that are
in ascending order with at least one address left out between two, and has exactly the addresses
that the operations stand for. Adding or removing addresses of one family leaves the other's as they
are. -/
theorem Term.eval_exact (t : Term)
    (h : ∀ text ∈ t.texts, ∃ s, AddressSet.parse text = .ok s) :
    ∃ s, t.eval = .ok s ∧
      (∀ f, (∀ x ∈ (s.runs f).spans, x.first ≤ x.last ∧ x.last ≤ f.size - 1) ∧
        (s.runs f).spans.Pairwise fun x y => x.last + 1 < y.first) ∧
      (∀ a, a ∈ s ↔ t.Denotes a) ∧
      (∀ b g, b.family ≠ g →
        (s.add b).runs g = s.runs g ∧ (s.remove b).runs g = s.runs g) ∧
      ∀ u : AddressSet, ∀ a, (∀ c ∈ u, c.family ≠ a.family) →
        ((a ∈ s.addAll u ↔ a ∈ s) ∧ (a ∈ s.removeAll u ↔ a ∈ s)) := by
  obtain ⟨s, hs, hm⟩ := exists_eval h
  refine ⟨s, hs, fun f => ⟨fun x _ => ⟨x.first_le_last, Nat.le_sub_one_of_lt x.last_lt⟩,
    (s.runs f).separated⟩, hm, fun b g hg => ?_, fun u a hu => ?_⟩
  · exact ⟨runs_setRuns_of_ne _ _ (Ne.symm hg), runs_setRuns_of_ne _ _ (Ne.symm hg)⟩
  · have hau : a ∉ u := fun ha => hu a ha rfl
    simp [hau]

/-- The `last` address of all is taken out of a set that has both ends of both families, and what is
left of the set without itself is added. -/
theorem Term.eval_exact_ends :
    ∃ last s, last.value = Family.ipv6.size - 1 ∧
      (addAll (remove (parse "::/0 0.0.0.0-255.255.255.255") (.host last))
        (removeAll (parse "::/0 0.0.0.0-255.255.255.255")
          (parse "::/0 0.0.0.0-255.255.255.255"))).eval = .ok s ∧
      ∀ a, a ∈ s ↔ TextDenotes "::/0 0.0.0.0-255.255.255.255" a ∧ a ∉ Block.host last := by
  have hparse : ∃ s, AddressSet.parse "::/0 0.0.0.0-255.255.255.255" = .ok s := ⟨_, rfl⟩
  obtain ⟨s, hs, -, hm, -⟩ := eval_exact
    (addAll (remove (parse "::/0 0.0.0.0-255.255.255.255")
      (.host ⟨.ipv6, Family.ipv6.size - 1, by decide⟩))
      (removeAll (parse "::/0 0.0.0.0-255.255.255.255") (parse "::/0 0.0.0.0-255.255.255.255")))
    (by simpa [texts] using hparse)
  refine ⟨_, s, rfl, hs, fun a => (hm a).trans ?_⟩
  simp [Denotes]
end AddressSet

end SplitTunnel.Net
