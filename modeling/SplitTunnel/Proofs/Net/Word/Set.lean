import SplitTunnel.Proofs.Net.Arithmetic
import SplitTunnel.Proofs.Net.Word.Block

/-!
# Sets in words (`SPEC_FULL.md` §4.1, merging, complement and parsing)

Insertion, removal and reading of sets with words for numbers. Insertion goes through the spans
once, growing the new one as it meets spans that touch it. A computation that reads texts has three
ends: a set, a text that cannot be read, or no result at all, where a number did not fit its word.
How many spans a set has is not a word.

* `WordSet`, `AddressSet.Term.words?`: sets in words, and what a term of set operations makes.
* `WordSpan.insert_words`, `WordSpan.erase?_words`: insertion and removal of spans are exact.
* `Follows`: a computation in words has a result, and the same as one without a bound.
* `AddressSet.Term.words_exact`: no operation leaves the range of its words, and all have the
  results of exact arithmetic.
-/

namespace SplitTunnel.Net

open Word

/-! ## Spans -/

namespace WordSpan

/-- `s` ends before `t` starts, and at least one number lies between them. -/
def Before (s t : WordSpan) : Prop := addCapped s.last 1#128 < t.first

instance (s t : WordSpan) : Decidable (Before s t) := inferInstanceAs (Decidable (_ < _))

/-- The smaller of the starts and the greater of the ends of `s` and `t`. -/
def join (s t : WordSpan) : WordSpan where
  first := if s.first ≤ t.first then s.first else t.first
  last := if s.last ≤ t.last then t.last else s.last

/-- Where an `insert` is: the spans gone through so far, the new one as it has grown, and whether it
is among them. -/
structure Insertion where
  merged : List WordSpan
  new : WordSpan
  placed : Bool

namespace Insertion

/-- Goes through one more span `s`. -/
def step (i : Insertion) (s : WordSpan) : Insertion :=
  if s.Before i.new then { i with merged := i.merged ++ [s] }
  else if i.new.Before s then
    { i with merged := i.merged ++ (if i.placed then [s] else [i.new, s]), placed := true }
  else { i with new := s.join i.new }

/-- The spans when `i` has gone through all. -/
def finish (i : Insertion) : List WordSpan := if i.placed then i.merged else i.merged ++ [i.new]

end Insertion

/-- Adds the span `new`, which grows by each of `spans` that touches it. -/
def insert (new : WordSpan) (spans : List WordSpan) : List WordSpan :=
  (spans.foldl Insertion.step ⟨[], new, false⟩).finish

/-- What of `s` lies before `hole`, if they overlap. -/
def before? (s hole : WordSpan) : Option (List WordSpan) := do
  if s.first < hole.first then return [⟨s.first, ← sub? hole.first 1#128⟩] else return []

/-- What of `s` lies after `hole`, if they overlap. -/
def after? (s hole : WordSpan) : Option (List WordSpan) := do
  if hole.last < s.last then return [⟨← add? hole.last 1#128, s.last⟩] else return []

/-- What is left of `s` when `hole` is cut out. -/
def minus? (s hole : WordSpan) : Option (List WordSpan) := do
  if s.last < hole.first ∨ hole.last < s.first then return [s]
  else return (← s.before? hole) ++ (← s.after? hole)

/-- Cuts `hole` out of each of the given spans. -/
def erase? (hole : WordSpan) : List WordSpan → Option (List WordSpan)
  | [] => some []
  | s :: rest => do return (← s.minus? hole) ++ (← erase? hole rest)

variable {f : Family} {s t hole : Span f} {l : List (Span f)}

theorem before_words_iff : s.words.Before t.words ↔ s.Before t :=
  addCapped_one_lt_iff s.last_lt_two_pow t.first_lt_two_pow

theorem join_words (s t : Span f) : s.words.join t.words = (s.join t).words := by
  have hfirst : s.words.first ≤ t.words.first ↔ s.first ≤ t.first :=
    ofNat_le_iff s.first_lt_two_pow t.first_lt_two_pow
  have hlast : s.words.last ≤ t.words.last ↔ s.last ≤ t.last :=
    ofNat_le_iff s.last_lt_two_pow t.last_lt_two_pow
  refine congrArg₂ WordSpan.mk ?_ ?_
  · by_cases h : s.first ≤ t.first
    · rw [if_pos (hfirst.mpr h)]
      exact congrArg (BitVec.ofNat 128) (Nat.min_eq_left h).symm
    · rw [if_neg (mt hfirst.mp h)]
      exact congrArg (BitVec.ofNat 128) (Nat.min_eq_right (Nat.le_of_not_le h)).symm
  · by_cases h : s.last ≤ t.last
    · rw [if_pos (hlast.mpr h)]
      exact congrArg (BitVec.ofNat 128) (Nat.max_eq_right h).symm
    · rw [if_neg (mt hlast.mp h)]
      exact congrArg (BitVec.ofNat 128) (Nat.max_eq_left (Nat.le_of_not_le h)).symm

/-- Once `new` is placed, the spans `l` after it stay. -/
theorem foldl_step_placed {new : Span f} (hl : ∀ s ∈ l, new.Before s) (merged : List WordSpan) :
    (l.map Span.words).foldl Insertion.step ⟨merged, new.words, true⟩ =
      ⟨merged ++ l.map Span.words, new.words, true⟩ := by
  induction l generalizing merged with
  | nil => rw [List.map_nil, List.foldl_nil, List.append_nil]
  | cons s rest ih =>
    have hs : new.Before s := hl s (by simp)
    have hnot : ¬ s.Before new := by
      have := new.first_le_last
      have := s.first_le_last
      simp only [Span.Before] at *
      omega
    rw [List.map_cons, List.foldl_cons, Insertion.step, if_neg (mt before_words_iff.mp hnot),
      if_pos (before_words_iff.mpr hs), ih fun t ht => hl t (by simp [ht])]
    simp

/-- Spans `l` that are apart stay apart when `new` is added, and `addCapped` decides as the exact
sum. -/
theorem finish_foldl_step {new : Span f} (hl : l.Pairwise Span.Before) (merged : List WordSpan) :
    ((l.map Span.words).foldl Insertion.step ⟨merged, new.words, false⟩).finish =
      merged ++ (Runs.insertSpan new l).map Span.words := by
  induction l generalizing new merged with
  | nil => rfl
  | cons s rest ih =>
    obtain ⟨hs, hr⟩ := List.pairwise_cons.mp hl
    rw [List.map_cons, List.foldl_cons, Insertion.step, Runs.insertSpan]
    by_cases hbefore : s.Before new
    · rw [if_pos (before_words_iff.mpr hbefore), if_pos hbefore, ih hr]
      simp
    · rw [if_neg (mt before_words_iff.mp hbefore), if_neg hbefore]
      by_cases hafter : new.Before s
      · rw [if_pos (before_words_iff.mpr hafter), if_pos hafter,
          foldl_step_placed fun t ht => hafter.trans (hs t ht)]
        simp [Insertion.finish]
      · rw [if_neg (mt before_words_iff.mp hafter), if_neg hafter, join_words]
        exact ih hr merged

theorem insert_words (new : Span f) (r : Runs f) :
    insert new.words (r.spans.map Span.words) = (r.insert new).spans.map Span.words :=
  finish_foldl_step r.separated []

theorem before?_words (h : hole.first ≤ s.last) :
    s.words.before? hole.words = some ((s.before hole).map Span.words) := by
  have hlt : s.words.first < hole.words.first ↔ s.first < hole.first :=
    ofNat_lt_iff s.first_lt_two_pow hole.first_lt_two_pow
  rw [before?, Span.before]
  by_cases hfirst : s.first < hole.first
  · have hend : sub? hole.words.first 1#128 = some (BitVec.ofNat 128 (hole.first - 1)) :=
      sub?_ofNat (by omega) hole.first_lt_two_pow
    have hmin : min s.last (hole.first - 1) = hole.first - 1 := by omega
    rw [if_pos (hlt.mpr hfirst), dif_pos hfirst, hend]
    simp [Span.words, hmin]
  · rw [if_neg (mt hlt.mp hfirst), dif_neg hfirst]
    rfl

theorem after?_words (h : s.first ≤ hole.last) :
    s.words.after? hole.words = some ((s.after hole).map Span.words) := by
  have hlt : hole.words.last < s.words.last ↔ hole.last < s.last :=
    ofNat_lt_iff hole.last_lt_two_pow s.last_lt_two_pow
  rw [after?, Span.after]
  by_cases hlast : hole.last < s.last
  · have hs := s.last_lt_two_pow
    have hstart : add? hole.words.last 1#128 = some (BitVec.ofNat 128 (hole.last + 1)) :=
      add?_ofNat (by omega)
    have hmax : max s.first (hole.last + 1) = hole.last + 1 := by omega
    rw [if_pos (hlt.mpr hlast), dif_pos hlast, hstart]
    simp [Span.words, hmax]
  · rw [if_neg (mt hlt.mp hlast), dif_neg hlast]
    rfl

theorem minus?_words (s hole : Span f) :
    s.words.minus? hole.words = some ((s.minus hole).map Span.words) := by
  have hapart : s.words.last < hole.words.first ∨ hole.words.last < s.words.first ↔
      s.last < hole.first ∨ hole.last < s.first :=
    or_congr (ofNat_lt_iff s.last_lt_two_pow hole.first_lt_two_pow)
      (ofNat_lt_iff hole.last_lt_two_pow s.first_lt_two_pow)
  rw [minus?, Span.minus]
  by_cases h : s.last < hole.first ∨ hole.last < s.first
  · rw [if_pos (hapart.mpr h), if_pos h]
    rfl
  · rw [if_neg (mt hapart.mp h), if_neg h, before?_words (by omega), after?_words (by omega),
      List.map_append]
    rfl

theorem erase?_words (hole : Span f) (r : Runs f) :
    erase? hole.words (r.spans.map Span.words) = some ((r.erase hole).spans.map Span.words) := by
  show erase? hole.words (r.spans.map Span.words) = some ((Runs.eraseSpan hole r.spans).map _)
  induction r.spans with
  | nil => rfl
  | cons s rest ih =>
    rw [List.map_cons, erase?, minus?_words, ih]
    show some (_ ++ _) = some ((s.minus hole ++ Runs.eraseSpan hole rest).map Span.words)
    rw [List.map_append]

end WordSpan

/-! ## Sets -/

/-- A set by the spans of each family, as words. -/
structure WordSet where
  ipv4 : List WordSpan
  ipv6 : List WordSpan
deriving DecidableEq

namespace WordSet

/-- The set without an address. -/
def empty : WordSet := ⟨[], []⟩

/-- The spans of `s` of one family. -/
def spans (s : WordSet) : Family → List WordSpan
  | .ipv4 => s.ipv4
  | .ipv6 => s.ipv6

/-- `s` with other spans of one family. -/
def setSpans (s : WordSet) : Family → List WordSpan → WordSet
  | .ipv4, l => { s with ipv4 := l }
  | .ipv6, l => { s with ipv6 := l }

/-- Adds the addresses of the span `new`. -/
def addSpan (s : WordSet) (f : Family) (new : WordSpan) : WordSet :=
  s.setSpans f (new.insert (s.spans f))

/-- Removes the addresses of the span `hole`. -/
def removeSpan? (s : WordSet) (f : Family) (hole : WordSpan) : Option WordSet := do
  return s.setSpans f (← hole.erase? (s.spans f))

/-- Adds the addresses of the block `b`. -/
def add? (s : WordSet) (b : WordBlock) : Option WordSet := do
  return s.addSpan b.family (← b.span?)

/-- Removes the addresses of the block `b`. -/
def remove? (s : WordSet) (b : WordBlock) : Option WordSet := do
  s.removeSpan? b.family (← b.span?)

/-- The addresses of `s` and those of `t`. -/
def addAll (s t : WordSet) : WordSet :=
  Family.all.foldl (fun s f => (t.spans f).foldl (·.addSpan f) s) s

/-- The addresses of `s` that are not in `t`. -/
def removeAll? (s t : WordSet) : Option WordSet :=
  Family.all.foldlM (fun s f => (t.spans f).foldlM (·.removeSpan? f) s) s

/-- The addresses of `s` of the family `f`. -/
def restrict (s : WordSet) (f : Family) : WordSet := empty.setSpans f (s.spans f)

/-- Adds the blocks of `bs` in order. -/
def extend? (s : WordSet) (bs : List WordBlock) : Option WordSet := bs.foldlM add? s

/-- The blocks that make up `s`, IPv4 first. -/
def subnets? (s : WordSet) : Option (List WordBlock) :=
  Family.all.foldlM
    (fun out f => (s.spans f).foldlM (fun out x => cut? f x.last x.first out) out) []

end WordSet

namespace AddressSet

/-- The spans of `s` as words. -/
def words (s : AddressSet) : WordSet := ⟨s.ipv4.spans.map Span.words, s.ipv6.spans.map Span.words⟩

variable {s t : AddressSet} {f : Family}

theorem spans_words (s : AddressSet) (f : Family) :
    s.words.spans f = (s.runs f).spans.map Span.words := by cases f <;> rfl

theorem setSpans_words (s : AddressSet) (f : Family) (r : Runs f) :
    s.words.setSpans f (r.spans.map Span.words) = (s.setRuns f r).words := by cases f <;> rfl

theorem addSpan_words (s : AddressSet) (new : Span f) :
    s.words.addSpan f new.words = (s.addSpan new).words := by
  rw [WordSet.addSpan, spans_words, WordSpan.insert_words, setSpans_words]
  rfl

theorem removeSpan?_words (s : AddressSet) (hole : Span f) :
    s.words.removeSpan? f hole.words = some (s.removeSpan hole).words := by
  rw [WordSet.removeSpan?, spans_words, WordSpan.erase?_words, Option.bind_eq_bind,
    Option.bind_some, setSpans_words]
  rfl

theorem add?_words (s : AddressSet) (b : Block) : s.words.add? b.words = some (s.add b).words := by
  rw [WordSet.add?, Block.span?_words, Option.bind_eq_bind, Option.bind_some]
  exact congrArg some (s.addSpan_words b.span)

theorem remove?_words (s : AddressSet) (b : Block) :
    s.words.remove? b.words = some (s.remove b).words := by
  rw [WordSet.remove?, Block.span?_words, Option.bind_eq_bind, Option.bind_some]
  exact s.removeSpan?_words b.span

theorem extend?_words (s : AddressSet) (bs : List Block) :
    s.words.extend? (bs.map Block.words) = some (s.extend bs).words := by
  induction bs generalizing s with
  | nil => rfl
  | cons b rest ih =>
    rw [List.map_cons, WordSet.extend?, List.foldlM_cons, add?_words]
    exact ih (s.add b)

theorem restrict_words (s : AddressSet) (f : Family) :
    s.words.restrict f = (s.restrict f).words := by
  rw [WordSet.restrict, spans_words]
  exact setSpans_words empty f (s.runs f)

theorem setRuns_runs (s : AddressSet) (f : Family) : s.setRuns f (s.runs f) = s := by
  cases f <;> rfl

theorem setRuns_setRuns (s : AddressSet) (r r' : Runs f) :
    (s.setRuns f r).setRuns f r' = s.setRuns f r' := by cases f <;> rfl

theorem foldl_addSpan_words (s : AddressSet) (l : List (Span f)) :
    (l.map Span.words).foldl (·.addSpan f) s.words =
      (s.setRuns f (l.foldl Runs.insert (s.runs f))).words := by
  induction l generalizing s with
  | nil => exact congrArg words (setRuns_runs s f).symm
  | cons new rest ih =>
    rw [List.map_cons, List.foldl_cons, addSpan_words, ih, addSpan, runs_setRuns_self,
      setRuns_setRuns]
    rfl

theorem foldlM_removeSpan?_words (s : AddressSet) (l : List (Span f)) :
    (l.map Span.words).foldlM (·.removeSpan? f) s.words =
      some (s.setRuns f (l.foldl Runs.erase (s.runs f))).words := by
  induction l generalizing s with
  | nil => exact congrArg (some ∘ words) (setRuns_runs s f).symm
  | cons hole rest ih =>
    rw [List.map_cons, List.foldlM_cons, removeSpan?_words, Option.bind_eq_bind, Option.bind_some,
      ih, removeSpan, runs_setRuns_self, setRuns_setRuns]
    rfl

theorem addAll_words (s t : AddressSet) : s.words.addAll t.words = (s.addAll t).words := by
  rw [WordSet.addAll, Family.all, List.foldl_cons, spans_words, foldl_addSpan_words,
    List.foldl_cons, spans_words, foldl_addSpan_words]
  rfl

theorem removeAll?_words (s t : AddressSet) :
    s.words.removeAll? t.words = some (s.removeAll t).words := by
  rw [WordSet.removeAll?, Family.all, List.foldlM_cons, spans_words, foldlM_removeSpan?_words,
    Option.bind_eq_bind, Option.bind_some, List.foldlM_cons, spans_words, foldlM_removeSpan?_words]
  rfl

/-- `cut?` puts the blocks of the spans `l` after those in `out`. -/
theorem foldlM_cut?_words (l : List (Span f)) (out : List WordBlock) :
    (l.map Span.words).foldlM (fun out x => cut? f x.last x.first out) out =
      some (out ++ (l.flatMap Span.cover).map Block.words) := by
  induction l generalizing out with
  | nil => simp
  | cons s rest ih =>
    rw [List.map_cons, List.foldlM_cons, Span.cut?_words, Option.bind_eq_bind, Option.bind_some, ih,
      List.flatMap_cons, List.map_append, List.append_assoc]

theorem subnets?_words (s : AddressSet) :
    s.words.subnets? = some (s.subnets.map Block.words) := by
  rw [WordSet.subnets?, Family.all, List.foldlM_cons, spans_words, foldlM_cut?_words,
    Option.bind_eq_bind, Option.bind_some, List.foldlM_cons, spans_words, foldlM_cut?_words]
  rw [subnets, List.map_append]
  rfl

end AddressSet

/-! ## Texts and terms -/

/-- The number of `a`, in as many bits as any address has. -/
def Address.word (a : Address) : BitVec 128 := (BitVec.ofNat a.family.width a.value).setWidth 128

/-- The span from `a` to `b`, which `item` gives. -/
def WordSpan.between (item : List Char) (a b : Address) : Except LiteralError (Family × WordSpan) :=
  if a.family = b.family then
    if b.word < a.word then .error (.reversed item) else .ok (a.family, ⟨a.word, b.word⟩)
  else .error (.mixedFamilies item)

/-- What the characters of `item` stand for. -/
def WordSpan.ofChars? (item : List Char) : ExceptT LiteralError Option (Family × WordSpan) :=
  match Text.cut '-' item with
  | none => do
    let b ← Block.ofChars item
    return (b.family, ← b.words.span?)
  | some (start, stop) =>
    match Address.ofChars? start, Address.ofChars? stop with
    | some a, some b => WordSpan.between item a b
    | _, _ => throw (.invalidAddress item)

/-- Reads the items one after another into `s`, up to the first that has a fault. -/
def WordSet.addItems? (s : WordSet) : List (List Char) → ExceptT LiteralError Option WordSet
  | [] => return s
  | item :: rest => do
    let (f, new) ← WordSpan.ofChars? item
    (s.addSpan f new).addItems? rest

/-- `Follows x e encode`: the computation `x` in words has a result, and it is that of `e`, under
`encode`. -/
def Follows {ε α β : Type} (x : ExceptT ε Option β) (e : Except ε α) (encode : α → β) : Prop :=
  x.run = some (e.map encode)

namespace Follows

variable {ε α β γ δ : Type} {g : α → β} {k : γ → δ}

theorem pure (a : α) : Follows (Pure.pure (g a)) (Pure.pure a : Except ε α) g := rfl

/-- A computation `x` that reads no text, and so can only fail to fit, but does fit. -/
theorem lift {x : Option β} {a : α} (h : x = some (g a)) :
    Follows (liftM x) (Pure.pure a : Except ε α) g := by
  rw [h]
  rfl

theorem bind {x : ExceptT ε Option β} {e : Except ε α} {y : β → ExceptT ε Option δ}
    {d : α → Except ε γ} (h : Follows x e g) (h' : ∀ a, Follows (y (g a)) (d a) k) :
    Follows (x >>= y) (e >>= d) k := by
  rw [Follows, ExceptT.run_bind, h]
  cases e with
  | error _ => rfl
  | ok a => exact h' a

end Follows

namespace AddressSet

/-- The family and the ends of `i` as words. -/
def Item.words (i : Item) : Family × WordSpan := (i.family, i.span.words)

theorem word_eq (a : Address) : a.word = BitVec.ofNat 128 a.value :=
  BitVec.setWidth_ofNat_of_le_of_lt a.family.width_le a.value_lt

theorem Item.between_words (item : List Char) (a b : Address) :
    WordSpan.between item a b = (Item.between item a b).map Item.words := by
  have ha : a.value < 2 ^ 128 := Nat.lt_of_lt_of_le a.value_lt a.family.size_le
  have hb : b.value < 2 ^ 128 := Nat.lt_of_lt_of_le b.value_lt b.family.size_le
  rw [WordSpan.between, Item.between]
  by_cases hf : a.family = b.family
  · have hlt : b.value < a.family.size := hf ▸ b.value_lt
    rw [if_pos hf, if_pos hf, word_eq, word_eq, Span.of?]
    by_cases hle : a.value ≤ b.value
    · rw [if_neg (by rw [ofNat_lt_iff hb ha]; omega), dif_pos ⟨hle, hlt⟩]
      rfl
    · rw [if_pos (by rw [ofNat_lt_iff hb ha]; omega), dif_neg fun h => hle h.1]
      rfl
  · rw [if_neg hf, if_neg hf]
    rfl

/-- `WordSpan.ofChars?` reads `item` as `Item.ofChars` does. -/
theorem Item.follows_ofChars? (item : List Char) :
    Follows (WordSpan.ofChars? item) (Item.ofChars item) Item.words := by
  rw [WordSpan.ofChars?, Item.ofChars]
  cases Text.cut '-' item with
  | none =>
    cases Block.ofChars item with
    | error _ => rfl
    | ok b =>
      show (liftM b.words.span? >>= fun x => Pure.pure (b.family, x) :
        ExceptT LiteralError Option _).run = _
      rw [b.span?_words]
      rfl
  | some parts =>
    dsimp only
    cases Address.ofChars? parts.1 with
    | none => rfl
    | some a =>
      cases Address.ofChars? parts.2 with
      | none => rfl
      | some b => exact congrArg some (between_words item a b)

theorem follows_addItems? (s : AddressSet) (items : List (List Char)) :
    Follows (s.words.addItems? items) (s.addItems items) words := by
  induction items generalizing s with
  | nil => rfl
  | cons item rest ih =>
    have hitem : Follows
        (WordSpan.ofChars? item >>= fun x => (s.words.addSpan x.1 x.2).addItems? rest)
        (Item.ofChars item >>= fun i => (s.addSpan i.span).addItems rest) words := by
      refine (Item.follows_ofChars? item).bind fun i => ?_
      rw [Item.words, addSpan_words]
      exact ih _
    rw [WordSet.addItems?, addItems]
    cases h : Item.ofChars item <;> rw [h] at hitem <;> exact hitem

/-- The set that a `Term` makes in words, unless one of its texts cannot be read. -/
def Term.words? : Term → ExceptT LiteralError Option WordSet
  | new => return .empty
  | add t b => do (← t.words?).add? b.words
  | addAll t u => do return (← t.words?).addAll (← u.words?)
  | remove t b => do (← t.words?).remove? b.words
  | removeAll t u => do (← t.words?).removeAll? (← u.words?)
  | extend t bs => do (← t.words?).extend? (bs.map Block.words)
  | collect bs => WordSet.empty.extend? (bs.map Block.words)
  | restrict t f => do return (← t.words?).restrict f
  | parse text => WordSet.empty.addItems? (Text.words text.toList)

/-- `t.words?` makes the set that `t.eval` makes, in words. -/
theorem Term.follows_words? (t : Term) : Follows t.words? t.eval AddressSet.words := by
  induction t with
  | new => rfl
  | add t b ih => exact ih.bind fun s => .lift (s.add?_words b)
  | addAll t u iht ihu =>
    refine iht.bind fun s => ihu.bind fun s' => ?_
    rw [addAll_words]
    exact .pure _
  | remove t b ih => exact ih.bind fun s => .lift (s.remove?_words b)
  | removeAll t u iht ihu =>
    exact iht.bind fun s => ihu.bind fun s' => .lift (s.removeAll?_words s')
  | extend t bs ih => exact ih.bind fun s => .lift (s.extend?_words bs)
  | collect bs => exact .lift (empty.extend?_words bs)
  | restrict t f ih =>
    refine ih.bind fun s => ?_
    rw [restrict_words]
    exact .pure _
  | parse text => exact follows_addItems? empty _

/-- No number in an operation on sets, in the ends of a block, in an item of a text or in the
cutting of a set into blocks is too great for its word or below zero: `words?`, `subnets?`,
`ofChars?` and `span?` have a result, and it is the one of exact arithmetic. Only texts that cannot
be read make no set. `addCapped`, which stops at the greatest word, says of two spans what the exact
sum says, and words hold the ends of spans and the numbers of blocks without loss. -/
theorem Term.words_exact :
    (∀ t : Term, t.words?.run = some (t.eval.map AddressSet.words)) ∧
    (∀ s : AddressSet, s.words.subnets? = some (s.subnets.map Block.words)) ∧
    (∀ item : List Char,
      (WordSpan.ofChars? item).run = some ((Item.ofChars item).map Item.words)) ∧
    (∀ b : Block, b.words.span? = some b.span.words) ∧
    (∀ (f : Family) (s t : Span f), s.words.Before t.words ↔ s.last + 1 < t.first) ∧
    (∀ (f : Family) (s : Span f), s.words.first.toNat = s.first ∧ s.words.last.toNat = s.last) ∧
    ∀ b : Block, b.words.base.toNat = b.base.value ∧ b.words.prefixLength.toNat = b.prefixLength :=
  ⟨Term.follows_words?, subnets?_words, Item.follows_ofChars?, Block.span?_words,
    fun _ _ _ => WordSpan.before_words_iff, fun _ => Span.toNat_words, Block.toNat_words⟩

end AddressSet

end SplitTunnel.Net
