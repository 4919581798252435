import SplitTunnel.Settings
import Mathlib.Data.List.Basic
import Mathlib.Data.List.Induction

/-!
# Settings are read back (`SPEC_FULL.md` §4.5, profile translation, and §6)

A reader takes `key="value"` entries one after another, each ended by a line break. In the quotes a
backslash stands before a character that is meant as it is, so no value ends its quotes early and no
value adds an entry.

* `Settings.Reader`, `Settings.read?`: the reader, one character at a time.
* `Settings.Write`, `Settings.ofWrites`, `Settings.last?`: tables as they come from writes, and what
  the last write to a key left.
* `Settings.documented`: what the engine is told about a profile, key by key.
* `Settings.read?_text`: reading undoes writing.
* `Settings.text_readable`: every table that comes from writes is read back, a profile's in
  particular.
-/

namespace SplitTunnel.Settings

open Std

variable {k v : String} {s : Settings} {l : List (String × String)}

/-! ## Writes -/

theorem ne_of_compare {key : String} (h : compare k key = .lt) : k ≠ key := by
  rintro rfl
  cases h.symm.trans ReflCmp.compare_self

theorem mem_setEntry {key value : String} (hl : l.Pairwise fun a b => compare a.1 b.1 = .lt) :
    (k, v) ∈ setEntry key value l ↔ k = key ∧ v = value ∨ k ≠ key ∧ (k, v) ∈ l := by
  induction l with
  | nil => simp [setEntry]
  | cons d rest ih =>
    obtain ⟨k', v'⟩ := d
    obtain ⟨hd, hrest⟩ := List.pairwise_cons.mp hl
    simp only [setEntry]
    split
    · next hlt =>
      -- all keys of the list come after the new one
      have hne : (k, v) ∈ (k', v') :: rest → k ≠ key := by
        intro hmem
        rcases List.mem_cons.mp hmem with heq | hmem
        · cases heq
          exact (ne_of_compare hlt).symm
        · exact (ne_of_compare (TransCmp.lt_trans hlt (hd _ hmem))).symm
      rw [List.mem_cons, Prod.mk.injEq]
      exact or_congr_right ⟨fun h => ⟨hne h, h⟩, And.right⟩
    · next heq =>
      have hkey : key = k' := LawfulEqCmp.eq_of_compare heq
      subst hkey
      have hne : (k, v) ∈ rest → k ≠ key := fun hmem => (ne_of_compare (hd _ hmem)).symm
      simp only [List.mem_cons, Prod.mk.injEq]
      constructor
      · rintro (h | h)
        · exact .inl h
        · exact .inr ⟨hne h, .inr h⟩
      · rintro (h | ⟨hk, ⟨rfl, -⟩ | h⟩)
        · exact .inl h
        · exact absurd rfl hk
        · exact .inr h
    · next hgt =>
      have hne : k' ≠ key := ne_of_compare (OrientedCmp.gt_iff_lt.mp hgt)
      rw [List.mem_cons, Prod.mk.injEq, ih hrest, List.mem_cons, Prod.mk.injEq]
      constructor
      · rintro (⟨rfl, rfl⟩ | h | ⟨hk, h⟩)
        · exact .inr ⟨hne, .inl ⟨rfl, rfl⟩⟩
        · exact .inl h
        · exact .inr ⟨hk, .inr h⟩
      · rintro (h | ⟨hk, h | h⟩)
        · exact .inr (.inl h)
        · exact .inl h
        · exact .inr (.inr ⟨hk, h⟩)

theorem mem_set {key value : String} : (k, v) ∈ (s.set key value).entries ↔
    k = key ∧ v = value ∨ k ≠ key ∧ (k, v) ∈ s.entries := mem_setEntry s.ascending

theorem mem_unset {key : String} :
    (k, v) ∈ (s.unset key).entries ↔ k ≠ key ∧ (k, v) ∈ s.entries := by
  simp only [unset, List.mem_filter, decide_eq_true_eq]
  exact And.comm

/-- A write to a `Settings` table. -/
inductive Write where
  | set (key value : String)
  /-- If `value` is `none`, `key` is taken out. -/
  | setOptional (key : String) (value : Option String)

/-- The key that a `Write` is to. -/
def Write.key : Write → String
  | set key _ | setOptional key _ => key

/-- What is written, if anything is. -/
def Write.value : Write → Option String
  | set _ value => some value
  | setOptional _ value => value

/-- `s` after a `Write`. -/
def write (s : Settings) : Write → Settings
  | .set key value => s.set key value
  | .setOptional key value => s.setOptional key value

/-- The table that the writes `ws` make, from the first to the last. -/
def ofWrites (ws : List Write) : Settings := ws.foldl write empty

/-- What the last of `ws` to `key` left there. -/
def last? (ws : List Write) (key : String) : Option String :=
  (ws.filter (·.key = key)).getLast?.bind Write.value

theorem mem_write (w : Write) : (k, v) ∈ (s.write w).entries ↔
    k = w.key ∧ w.value = some v ∨ k ≠ w.key ∧ (k, v) ∈ s.entries := by
  cases w with
  | set key value =>
    simp only [write, mem_set, Write.key, Write.value, Option.some.injEq, eq_comm]
  | setOptional key value =>
    cases value with
    | none => simp only [write, setOptional, mem_unset, Write.key, Write.value]; simp
    | some value =>
      simp only [write, setOptional, mem_set, Write.key, Write.value, Option.some.injEq, eq_comm]

theorem last?_concat (ws : List Write) (w : Write) (k : String) :
    last? (ws ++ [w]) k = if w.key = k then w.value else last? ws k := by
  unfold last?
  rw [List.filter_append]
  by_cases h : w.key = k
  · simp [h]
  · simp [h]

/-- `ofWrites ws` has what the last write to each key left. -/
theorem mem_ofWrites (ws : List Write) :
    (k, v) ∈ (ofWrites ws).entries ↔ last? ws k = some v := by
  induction ws using List.reverseRecOn with
  | nil => simp [ofWrites, empty, last?]
  | append_singleton ws w ih =>
    rw [ofWrites, List.foldl_concat, ← ofWrites, mem_write, ih, last?_concat]
    by_cases h : w.key = k
    · simp [h]
    · simp [h, Ne.symm h]

theorem exists_write_of_mem {ws : List Write} (h : (k, v) ∈ (ofWrites ws).entries) :
    ∃ w ∈ ws, w.key = k ∧ w.value = some v := by
  obtain ⟨w, hlast, hvalue⟩ := Option.bind_eq_some_iff.mp ((mem_ofWrites ws).mp h)
  obtain ⟨hmem, hkey⟩ := List.mem_filter.mp (List.mem_of_getLast? hlast)
  exact ⟨w, hmem, of_decide_eq_true hkey, hvalue⟩

/-! ## Reading -/

/-- Where a `Reader` of settings is. -/
inductive Reader.Place where
  /-- In a key, of which the characters `read` have been read, last first. -/
  | key (read : List Char)
  /-- Behind the equals sign of `key`. -/
  | opening (key : String)
  /-- In the quotes, of whose value the characters `read` have been read, last first. -/
  | quoted (key : String) (read : List Char)
  | escape (key : String) (read : List Char)
  /-- Behind the closing quote of `value`. -/
  | closing (key value : String)

/-- A reader of settings: the entries that it has read, and its `place`. -/
structure Reader where
  /-- The entries so far, last first. -/
  read : List (String × String)
  place : Reader.Place

namespace Reader

/-- `r` after one more character `c`. -/
def step (r : Reader) (c : Char) : Option Reader :=
  match r.place with
  | .key read =>
    some { r with place := if c = '=' then .opening (.ofList read.reverse) else .key (c :: read) }
  | .opening key => if c = '"' then some { r with place := .quoted key [] } else none
  | .quoted key read =>
    some { r with
      place :=
        if c = '"' then .closing key (.ofList read.reverse)
        else if c = '\\' then .escape key read
        else .quoted key (c :: read) }
  | .escape key read => some { r with place := .quoted key (c :: read) }
  | .closing key value => if c = '\n' then some ⟨(key, value) :: r.read, .key []⟩ else none

/-- The entries of `r`, if the last one is complete. -/
def entries? (r : Reader) : Option (List (String × String)) :=
  match r.place with
  | .key [] => some r.read.reverse
  | _ => none

variable {es : List (String × String)}

theorem foldlM_key {chars : List Char} (h : '=' ∉ chars) (read : List Char) :
    chars.foldlM step ⟨es, .key read⟩ = some ⟨es, .key (chars.reverse ++ read)⟩ := by
  induction chars generalizing read with
  | nil => rfl
  | cons c rest ih =>
    obtain ⟨hc, hrest⟩ := not_or.mp (List.mem_cons.not.mp h)
    simp only [List.foldlM_cons, step, if_neg (Ne.symm hc), Option.bind_eq_bind, Option.bind_some]
    rw [ih hrest, List.reverse_cons, List.append_assoc, List.singleton_append]

theorem foldlM_escape (key : String) (read : List Char) (c : Char) :
    (Settings.escape c).foldlM step ⟨es, .quoted key read⟩ =
      some ⟨es, .quoted key (c :: read)⟩ := by
  unfold Settings.escape
  split
  · simp [step]
  · next h =>
    obtain ⟨hquote, hslash⟩ := not_or.mp h
    simp [step, hquote, hslash]

theorem foldlM_value (key : String) (chars read : List Char) :
    (chars.flatMap Settings.escape).foldlM step ⟨es, .quoted key read⟩ =
      some ⟨es, .quoted key (chars.reverse ++ read)⟩ := by
  induction chars generalizing read with
  | nil => rfl
  | cons c rest ih =>
    rw [List.flatMap_cons, List.foldlM_append, foldlM_escape]
    simp only [Option.bind_eq_bind, Option.bind_some]
    rw [ih, List.reverse_cons, List.append_assoc, List.singleton_append]

/-- `line e` is read as the entry `e`. -/
theorem foldlM_line {e : String × String} (h : '=' ∉ e.1.toList) :
    (line e).foldlM step ⟨es, .key []⟩ = some ⟨e :: es, .key []⟩ := by
  obtain ⟨key, value⟩ := e
  simp only [line, List.foldlM_append, foldlM_key h, Option.bind_eq_bind, Option.bind_some]
  have hopen : ['=', '"'].foldlM step ⟨es, .key (key.toList.reverse ++ [])⟩ =
      some ⟨es, .quoted key []⟩ := by simp [step]
  have hclose : ['"', '\n'].foldlM step ⟨es, .quoted key (value.toList.reverse ++ [])⟩ =
      some ⟨(key, value) :: es, .key []⟩ := by simp [step]
  rw [hopen, Option.bind_some, foldlM_value, Option.bind_some, hclose]

theorem foldlM_lines (h : ∀ e ∈ l, '=' ∉ e.1.toList) :
    (l.flatMap line).foldlM step ⟨es, .key []⟩ = some ⟨l.reverse ++ es, .key []⟩ := by
  induction l generalizing es with
  | nil => rfl
  | cons e rest ih =>
    rw [List.flatMap_cons, List.foldlM_append, foldlM_line (h e (List.mem_cons_self ..))]
    simp only [Option.bind_eq_bind, Option.bind_some]
    rw [ih fun d hd => h d (List.mem_cons_of_mem e hd), List.reverse_cons, List.append_assoc,
      List.singleton_append]

end Reader

/-- The entries that `text` holds. -/
def read? (text : String) : Option (List (String × String)) :=
  (text.toList.foldlM Reader.step ⟨[], .key []⟩).bind Reader.entries?

example : read? "a=\"1\"\nb=\"\\\"\n=\"\n" = some [("a", "1"), ("b", "\"\n=")] := by decide

/-- `read?` undoes `Settings.text`, if no key has an equals sign. -/
theorem read?_text (h : ∀ e ∈ s.entries, '=' ∉ e.1.toList) : read? s.text = some s.entries := by
  rw [read?, text, String.toList_ofList, chars, Reader.foldlM_lines h]
  simp [Reader.entries?]

theorem eq_of_text_eq {t : Settings} (hs : ∀ e ∈ s.entries, '=' ∉ e.1.toList)
    (ht : ∀ e ∈ t.entries, '=' ∉ e.1.toList) (h : s.text = t.text) : s = t := by
  have hentries : some s.entries = some t.entries :=
    (read?_text hs).symm.trans (h ▸ read?_text ht)
  cases s
  cases t
  cases hentries
  rfl

theorem notMem_key_ofWrites {ws : List Write} (h : ∀ w ∈ ws, '=' ∉ w.key.toList) :
    ∀ e ∈ (ofWrites ws).entries, '=' ∉ e.1.toList := by
  rintro ⟨k, v⟩ he
  obtain ⟨w, hw, rfl, -⟩ := exists_write_of_mem he
  exact h w hw

/-! ## Profiles -/

/-- What the engine is told about `p`: the documented keys, each with its value or with `none` if
`p` leaves it open. -/
def documented (p : Profile) (language : String) : List (String × Option String) :=
  [("global.language", some language),
    ("global.mtu", p.mtu.map fun n => toString n.toNat),
    ("global.nat_keepalive", p.natKeepalive.map fun n => toString n.toNat),
    ("global.rsa_pss", some (if p.flags.has ProfileFlags.rsaPss then "1" else "0")),
    ("global.crl", some (if p.flags.has ProfileFlags.disableCrl then "0" else "1")),
    ("global.ocsp", some (if p.flags.has ProfileFlags.disableOcsp then "0" else "1")),
    ("connection.type", some p.vpnType.identifier),
    ("connection.server", some p.gateway),
    ("connection.port", p.port.map fun n => toString n.toNat),
    ("connection.username", p.username),
    ("connection.password", p.password),
    ("connection.local_id", p.localId),
    ("connection.remote_id", p.remoteId),
    ("connection.certreq", some (if p.flags.has ProfileFlags.suppressCertReqs then "0" else "1")),
    ("connection.strict_revocation",
      some (if p.flags.has ProfileFlags.strictRevocation then "1" else "0")),
    ("connection.ike_proposal", p.ikeProposal),
    ("connection.esp_proposal", p.espProposal)]

/-- The writes of a table that `es` gives key by key. -/
def writesOf (es : List (String × Option String)) : List Write :=
  es.map fun (key, value) => .setOptional key value

theorem flag_not (b : Bool) : flag (!b) = if b then "0" else "1" := by cases b <;> rfl

theorem ofProfile_eq (p : Profile) (language : String) :
    ofProfile p language = ofWrites (writesOf (documented p language)) := by
  simp only [ofProfile, flag_not]
  rfl

theorem nodup_documented (p : Profile) (language : String) :
    ((documented p language).map Prod.fst).Nodup := by
  simp only [documented, List.map_cons, List.map_nil]
  decide

theorem notMem_documented (p : Profile) (language : String) :
    ∀ w ∈ writesOf (documented p language), '=' ∉ w.key.toList := by
  have hkeys : ∀ key ∈ (documented p language).map Prod.fst, '=' ∉ key.toList := by
    simp only [documented, List.map_cons, List.map_nil]
    decide
  intro w hw
  obtain ⟨e, he, rfl⟩ := List.mem_map.mp hw
  exact hkeys _ (List.mem_map.mpr ⟨e, he, rfl⟩)

/-- Where each key of `es` is written once, the one write to it is the last. -/
theorem last?_writesOf {es : List (String × Option String)} (h : (es.map Prod.fst).Nodup) :
    last? (writesOf es) k = some v ↔ (k, some v) ∈ es := by
  induction es using List.reverseRecOn with
  | nil => simp [writesOf, last?]
  | append_singleton es e ih =>
    obtain ⟨key, value⟩ := e
    rw [List.map_append, List.map_singleton] at h
    obtain ⟨hes, -, hnew⟩ := List.nodup_append.mp h
    rw [writesOf, List.map_append, List.map_singleton, last?_concat, ← writesOf]
    show (if key = k then value else last? (writesOf es) k) = some v ↔ _
    rw [List.mem_append, List.mem_singleton, Prod.mk.injEq]
    by_cases hk : key = k
    · subst hk
      have hnot : (key, some v) ∉ es := fun hmem =>
        hnew key (List.mem_map.mpr ⟨_, hmem, rfl⟩) key (List.mem_singleton.mpr rfl) rfl
      simp [hnot, eq_comm]
    · rw [if_neg hk, ih hes]
      simp [Ne.symm hk]

/-- `read?` takes what `text` writes for `ofWrites ws` as its entries, in ascending order of keys:
for every key without an equals sign what the last write to it left, and no key that was taken out
last. So tables that are written alike are the same. What the engine is told about `p` is read as
the `documented` keys that `p` gives a value. -/
theorem text_readable :
    (∀ ws : List Write, (∀ w ∈ ws, '=' ∉ w.key.toList) →
      ∃ es, read? (ofWrites ws).text = some es ∧
        (es.Pairwise fun a b => compare a.1 b.1 = .lt) ∧
        ∀ k v, (k, v) ∈ es ↔ last? ws k = some v) ∧
    (∀ ws ws' : List Write, (∀ w ∈ ws, '=' ∉ w.key.toList) → (∀ w ∈ ws', '=' ∉ w.key.toList) →
      (ofWrites ws).text = (ofWrites ws').text → ofWrites ws = ofWrites ws') ∧
    ∀ (p : Profile) (language : String),
      ∃ es, read? (ofProfile p language).text = some es ∧
        (es.Pairwise fun a b => compare a.1 b.1 = .lt) ∧
        ∀ k v, (k, v) ∈ es ↔ (k, some v) ∈ documented p language := by
  refine ⟨fun ws h => ?_, fun ws ws' h h' => ?_, fun p language => ?_⟩
  · exact ⟨_, read?_text (notMem_key_ofWrites h), (ofWrites ws).ascending,
      fun k v => mem_ofWrites ws⟩
  · exact eq_of_text_eq (notMem_key_ofWrites h) (notMem_key_ofWrites h')
  · rw [ofProfile_eq]
    refine ⟨_, read?_text (notMem_key_ofWrites (notMem_documented p language)),
      Settings.ascending _, fun k v => ?_⟩
    rw [mem_ofWrites, last?_writesOf (nodup_documented p language)]

/-- A value of `"a"` that looks like the end of its line and another line, and a key `"c"` that is
taken out. -/
theorem text_readable_hostile :
    ∃ es, read? (ofWrites [.set "b" "x", .set "a" "\\\"\nb=\"y\"\n", .setOptional "c" (some "z"),
        .setOptional "c" none, .set "b" "\\"]).text = some es ∧
      ("a", "\\\"\nb=\"y\"\n") ∈ es ∧ ("b", "\\") ∈ es ∧ ("b", "y") ∉ es ∧ ("c", "z") ∉ es := by
  obtain ⟨es, hread, -, hmem⟩ := text_readable.1 [.set "b" "x", .set "a" "\\\"\nb=\"y\"\n",
    .setOptional "c" (some "z"), .setOptional "c" none, .set "b" "\\"] (by decide)
  exact ⟨es, hread, (hmem _ _).mpr (by decide), (hmem _ _).mpr (by decide),
    fun h => absurd ((hmem _ _).mp h) (by decide), fun h => absurd ((hmem _ _).mp h) (by decide)⟩

end SplitTunnel.Settings
