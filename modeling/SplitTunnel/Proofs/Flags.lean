import SplitTunnel.Proofs.Text.Blank
import SplitTunnel.Proofs.Text.Numeral
import SplitTunnel.Profile.Flags

/-!
# Flag words are read back (`SPEC_FULL.md` §3, the `flags` and `split_tunneling` fields)

The names of the flags that are set and the number that is left make up the word, and no part of the
text is taken for another one.

* `FlagTable.IsSound`: names that can be told apart, for bits that can.
* `FlagTable.foldl_lor_unnamed`: nothing of the word is lost.
* `FlagTable.read?_write`: reading undoes writing.
* `ProfileFlags.parse?_text`, `SplitTunneling.parse?_text`: so it does for both words of a profile,
  whatever their bits.
-/

namespace SplitTunnel

open Text

/-- Where no two entries of `l` have the same key, every entry is found. -/
theorem lookup_of_mem {α β : Type} [BEq α] [LawfulBEq α] {l : List (α × β)} {k : α} {v : β}
    (hl : (l.map Prod.fst).Nodup) (h : (k, v) ∈ l) : l.lookup k = some v := by
  obtain ⟨l₁, l₂, rfl⟩ := List.append_of_mem h
  refine List.lookup_eq_some_iff.mpr ⟨l₁, l₂, rfl, fun e he => bne_iff_ne.mpr ?_⟩
  rintro rfl
  rw [List.map_append, List.map_cons, List.nodup_append] at hl
  exact hl.2.2 e.1 (List.mem_map_of_mem he) e.1 (List.mem_cons_self ..) rfl

namespace FlagTable

variable {t : FlagTable} {ns es : List (String × Nat)} {bits f g : Nat}

/-- The names of `t` are words that are no number, no two are the same, and no two flags have a
common bit. -/
structure IsSound (t : FlagTable) : Prop where
  isBlank : ∀ e ∈ t.names, ∀ c ∈ e.1.toList, isBlank c = false
  ne_nil : ∀ e ∈ t.names, e.1.toList ≠ []
  bar : ∀ e ∈ t.names, '|' ∉ e.1.toList
  number : ∀ e ∈ t.names, e.1.toList.take 2 ≠ ['0', 'x']
  distinct : (t.names.map Prod.fst).Nodup
  apart : t.names.Pairwise fun d e => d.2 &&& e.2 = 0

/-! ## Bits -/

theorem foldl_lor (a : Nat) (l : List Nat) :
    l.foldl (· ||| ·) a = a ||| l.foldl (· ||| ·) 0 := by
  conv_lhs => rw [← Nat.or_zero a]
  exact List.foldl_assoc

/-- A flag `f` that is taken away from `bits` can be put back. -/
theorem lor_xor_of_land_eq (h : bits &&& f = f) : f ||| (bits ^^^ f) = bits := by
  refine Nat.eq_of_testBit_eq fun i => ?_
  have hi := congrArg (·.testBit i) h
  simp only [Nat.testBit_and, Nat.testBit_or, Nat.testBit_xor] at hi ⊢
  revert hi
  cases bits.testBit i <;> cases f.testBit i <;> decide

/-- A flag `g` that is apart from `f` stays as it is when `f` is taken away from `bits`. -/
theorem xor_land_of_apart (h : f &&& g = 0) : (bits ^^^ f) &&& g = bits &&& g := by
  rw [Nat.and_xor_distrib_right, h, Nat.xor_zero]

/-- The flags of `ns` that are set in `bits`. -/
def setIn (ns : List (String × Nat)) (bits : Nat) : List (String × Nat) :=
  ns.filter fun e => bits &&& e.2 == e.2

/-- The flags of `ns` that are set in `bits`, joined with what is left without them, are `bits`:
taking a flag away leaves the flags behind it as they are. -/
theorem foldl_lor_foldl_xor (h : ns.Pairwise fun d e => d.2 &&& e.2 = 0) (bits : Nat) :
    ((setIn ns bits).map Prod.snd).foldl (· ||| ·) 0 |||
      ns.foldl (fun rest e => if rest &&& e.2 = e.2 then rest ^^^ e.2 else rest) bits = bits := by
  induction ns generalizing bits with
  | nil => simp [setIn]
  | cons e ns ih =>
    obtain ⟨hapart, hns⟩ := List.pairwise_cons.mp h
    rw [setIn, List.filter_cons, List.foldl_cons]
    by_cases hset : bits &&& e.2 = e.2
    · have hsame : setIn ns bits = setIn ns (bits ^^^ e.2) :=
        List.filter_congr fun d hd => by rw [xor_land_of_apart (hapart d hd)]
      rw [if_pos hset, if_pos (by simpa using hset), ← setIn, hsame, List.map_cons,
        List.foldl_cons, foldl_lor, Nat.or_assoc, ih hns, Nat.zero_or, lor_xor_of_land_eq hset]
    · rw [if_neg hset, if_neg (by simpa using hset), ← setIn, ih hns]

/-- Nothing of `bits` is lost: it is the flags of `t` that are set and `t.unnamed bits`. -/
theorem foldl_lor_unnamed (ht : t.IsSound) (bits : Nat) :
    ((setIn t.names bits).map Prod.snd).foldl (· ||| ·) 0 ||| t.unnamed bits = bits :=
  foldl_lor_foldl_xor ht.apart bits

theorem unnamed_le (ht : t.IsSound) (bits : Nat) : t.unnamed bits ≤ bits := by
  conv_rhs => rw [← foldl_lor_unnamed ht bits]
  exact Nat.right_le_or

/-! ## Parts -/

/-- `part` can be a part of a text as it is written: a word without the mark between parts. -/
structure IsPart (part : List Char) : Prop where
  isBlank : ∀ c ∈ part, isBlank c = false
  ne_nil : part ≠ []
  bar : '|' ∉ part

/-- `parts` that are written with a mark between two are found again. -/
theorem map_trim_splitOn {parts : List (List Char)} (hne : parts ≠ [])
    (h : ∀ part ∈ parts, IsPart part) (left : List Char) (hl : ∀ c ∈ left, isBlank c = true) :
    ((left ++ [' ', '|', ' '].intercalate parts).splitOn '|').map trim = parts := by
  have hbar (s : List Char) (hs : ∀ c ∈ s, Text.isBlank c = true) : '|' ∉ s := fun hmem => by
    cases hs '|' hmem
  induction parts generalizing left with
  | nil => exact absurd rfl hne
  | cons part rest ih =>
    have hpart := h part (List.mem_cons_self ..)
    cases rest with
    | nil =>
      have hnot : '|' ∉ left ++ part := by simp [hbar left hl, hpart.bar]
      have htrim := trim_append left [] hl hpart.isBlank hpart.ne_nil (by simp)
      rw [List.append_nil] at htrim
      rw [List.intercalate_singleton, List.splitOn_eq_singleton hnot, List.map_singleton, htrim]
    | cons next rest =>
      have hnot : '|' ∉ left ++ (part ++ [' ']) := by simp [hbar left hl, hpart.bar]
      have htrim := trim_append left [' '] hl hpart.isBlank hpart.ne_nil (by simp [isBlank])
      have hrest := ih (List.cons_ne_nil _ _) (fun p hp => h p (List.mem_cons_of_mem part hp)) [' ']
        (by simp [isBlank])
      have hcut : left ++ [' ', '|', ' '].intercalate (part :: next :: rest) =
          (left ++ (part ++ [' '])) ++
            '|' :: ([' '] ++ [' ', '|', ' '].intercalate (next :: rest)) := by
        simp [List.intercalate_cons_cons]
      rw [hcut, List.splitOn_append_cons_self_of_not_mem hnot, List.map_cons, htrim, hrest]

theorem part?_name (ht : t.IsSound) {e : String × Nat} (he : e ∈ t.names) :
    t.part? e.1.toList = some e.2 := by
  unfold part?
  split
  · next digits heq => exact absurd (by rw [heq]; rfl) (ht.number e he)
  · rw [String.ofList_toList]
    exact lookup_of_mem ht.distinct he

theorem mapM_part?_names (ht : t.IsSound) (h : ∀ e ∈ es, e ∈ t.names) :
    (es.map fun e => e.1.toList).mapM t.part? = some (es.map Prod.snd) := by
  induction es with
  | nil => rfl
  | cons e rest ih =>
    rw [List.map_cons, List.mapM_cons, part?_name ht (h e (List.mem_cons_self ..)),
      ih fun d hd => h d (List.mem_cons_of_mem e hd)]
    rfl

theorem isPart_name (ht : t.IsSound) {e : String × Nat} (he : e ∈ t.names) :
    IsPart e.1.toList := ⟨ht.isBlank e he, ht.ne_nil e he, ht.bar e he⟩

theorem isPart_number (n : Nat) : IsPart ('0' :: 'x' :: hexadecimal n) := by
  have hread : natural? 16 (hexadecimal n) = some n := natural?_toDigits (by decide) (by decide) n
  refine ⟨fun c hc => ?_, List.cons_ne_nil _ _, ?_⟩
  · rcases List.mem_cons.mp hc with rfl | hc
    · rfl
    rcases List.mem_cons.mp hc with rfl | hc
    · rfl
    by_contra hblank
    have hdigit := digit?_of_mem hread hc
    rw [digit?_of_isBlank (by simpa using hblank)] at hdigit
    cases hdigit
  · have hbar : '|' ∉ hexadecimal n := notMem_of_natural? hread (by decide)
    simp [hbar]

theorem parts_eq (t : FlagTable) (bits : Nat) :
    t.parts bits = ((setIn t.names bits).map fun e => e.1.toList) ++
      if t.unnamed bits = 0 then [] else ['0' :: 'x' :: hexadecimal (t.unnamed bits)] := by
  rw [parts, setNames, List.map_map]
  rfl

theorem isPart_of_mem_parts (ht : t.IsSound) {part : List Char} (h : part ∈ t.parts bits) :
    IsPart part := by
  rw [parts_eq] at h
  rcases List.mem_append.mp h with h | h
  · obtain ⟨e, he, rfl⟩ := List.mem_map.mp h
    exact isPart_name ht (List.mem_of_mem_filter he)
  · split at h
    · cases h
    · rw [List.mem_singleton.mp h]
      exact isPart_number _

/-- `t.parts bits` stands for `bits`. -/
theorem mapM_part?_parts (ht : t.IsSound) (hbits : bits < 2 ^ t.width) :
    ((t.parts bits).mapM t.part?).map (·.foldl (· ||| ·) 0) = some bits := by
  have hword := foldl_lor_unnamed ht bits
  have hnames : ∀ e ∈ setIn t.names bits, e ∈ t.names := fun e he => List.mem_of_mem_filter he
  rw [parts_eq, List.mapM_append, mapM_part?_names ht hnames]
  split
  · next hrest =>
    rw [hrest, Nat.or_zero] at hword
    simp [hword]
  · have hlimit : t.unnamed bits ≤ 2 ^ t.width - 1 := by
      have := unnamed_le ht bits
      omega
    have hnumber : t.part? ('0' :: 'x' :: hexadecimal (t.unnamed bits)) =
        some (t.unnamed bits) := unsigned?_hexadecimal hlimit
    simp [hnumber, hword]

/-- `t.read?` undoes `t.write` for every `bits` that fits. -/
theorem read?_write (ht : t.IsSound) (hbits : bits < 2 ^ t.width) :
    t.read? (t.write bits) = some bits := by
  have hparts := mapM_part?_parts ht hbits
  by_cases hne : t.parts bits = []
  · rw [hne] at hparts
    rw [read?, write, hne]
    exact hparts
  · -- a part has a first character, and that is no blank
    obtain ⟨part, rest, heq⟩ := List.exists_cons_of_ne_nil hne
    have hpart : IsPart part := isPart_of_mem_parts ht (heq ▸ List.mem_cons_self ..)
    obtain ⟨c, hc⟩ := List.exists_mem_of_ne_nil _ hpart.ne_nil
    have hmem : c ∈ t.write bits := by
      rw [write, heq]
      cases rest <;> simp [List.intercalate_cons_cons, hc]
    have hnonempty : (trim (t.write bits)).isEmpty = false := by
      simpa using List.ne_nil_of_mem (mem_trim hmem (hpart.isBlank c hc))
    have hsplit := map_trim_splitOn hne (fun part => isPart_of_mem_parts ht) [] (by simp)
    rw [List.nil_append] at hsplit
    rw [read?, hnonempty, if_neg Bool.false_ne_true, ← hparts, ← hsplit, List.mapM_map]
    rfl

end FlagTable

/-! ## The words of a profile -/

theorem ProfileFlags.isSound_table : table.IsSound where
  isBlank := by simp [table, Text.isBlank]
  ne_nil := by decide
  bar := by decide
  number := by decide
  distinct := by decide
  apart := by decide

theorem SplitTunneling.isSound_table : table.IsSound where
  isBlank := by simp [table, Text.isBlank]
  ne_nil := by decide
  bar := by decide
  number := by decide
  distinct := by decide
  apart := by decide

/-- Any word `f` of options is read back, bits without a name included. -/
theorem ProfileFlags.parse?_text (f : ProfileFlags) : parse? f.text = some f := by
  have hlt : f.bits.toNat < 2 ^ table.width := f.bits.toNat_lt
  rw [parse?, text, String.toList_ofList, FlagTable.read?_write isSound_table hlt]
  simp

/-- Any word `s` of blocked families is read back, bits without a name included. -/
theorem SplitTunneling.parse?_text (s : SplitTunneling) : parse? s.text = some s := by
  have hlt : s.bits.toNat < 2 ^ table.width := s.bits.toNat_lt
  rw [parse?, text, String.toList_ofList, FlagTable.read?_write isSound_table hlt]
  simp

end SplitTunnel
