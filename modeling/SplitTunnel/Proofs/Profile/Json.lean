import SplitTunnel.Profile.Json
import SplitTunnel.Proofs.Flags
import SplitTunnel.Proofs.Json.Text
import Mathlib.Data.List.Nodup

/-!
# Profiles are read back (`SPEC_FULL.md` §3, tunnel profile, and §6)

A `Profile` is its fields, and each of these is written and read by itself.

* `Profile.Field`: a field with how it is written and read, and that reading undoes writing.
* `Profile.fields`: all fields; `Profile.eq_of_fields` says that they make up the profile.
* `Profile.exists_ofJson?`: an object is read field by field, whatever else it holds.
* `Profile.json_faithful`: reading undoes writing, and what an object leaves out has its default.
-/

namespace SplitTunnel

open Text

namespace Json

theorem natural?_nat {n limit : Nat} (h : n ≤ limit) : (nat n).natural? limit = some n := by
  have hread : Text.natural? 10 (toString n).toList = some n := by
    rw [Nat.toString_eq_ofList_toDigits, String.toList_ofList]
    exact natural?_toDigits (by decide) (by decide) n
  show (Text.natural? 10 (toString n).toList).filter (· ≤ limit) = some n
  rw [hread]
  simpa using h

theorem valid_nat (n : Nat) : (nat n).Valid := by
  show isNumber (toString n).toList = true
  rw [Nat.toString_eq_ofList_toDigits, String.toList_ofList]
  exact isNumber_toDigits n

variable {names : List String} {ms : List (String × Json)} {name : String} {v : Json}

theorem nodup_known (h : ((ms.map Prod.fst).filter names.contains).Nodup) :
    ((ms.filter fun m => names.contains m.1).map Prod.fst).Nodup := by
  rw [List.filter_map] at h
  exact h

/-- An object with the members `ms`, among which no known name stands twice, gives the known
members. -/
theorem fields?_obj (h : ((ms.map Prod.fst).filter names.contains).Nodup) :
    (obj ms).fields? names = some (ms.filter fun m => names.contains m.1) := by
  have hreadable : (ms.map fun m => (some m.1, m.2)).mapM
      (fun m : Option String × Json => m.1.map fun k => (k, m.2)) = some ms := by
    clear h
    induction ms with
    | nil => rfl
    | cons m rest ih =>
      rw [List.map_cons, List.mapM_cons, ih]
      rfl
  show ((ms.map fun m => (some m.1, m.2)).mapM
      (fun m : Option String × Json => m.1.map fun k => (k, m.2))).bind _ = _
  rw [hreadable, Option.bind_some]
  exact if_pos (nodup_known h)

/-- A field whose `name` is not among the members `ms` has its `default`. -/
theorem field?_of_notMem {α : Type} {default : α} {read : Json → Option α}
    (h : name ∉ ms.map Prod.fst) :
    field? (ms.filter fun m => names.contains m.1) name default read = some default := by
  have hnone : (ms.filter fun m => names.contains m.1).lookup name = none := by
    refine List.lookup_eq_none_iff.mpr fun m hm => bne_iff_ne.mpr ?_
    rintro rfl
    exact h (List.mem_map_of_mem (List.mem_of_mem_filter hm))
  rw [field?, hnone]

/-- A field whose `name` stands once among the members `ms` is read. -/
theorem field?_of_mem {α : Type} {default : α} {read : Json → Option α}
    (h : ((ms.map Prod.fst).filter names.contains).Nodup) (hname : name ∈ names)
    (hv : (name, v) ∈ ms) :
    field? (ms.filter fun m => names.contains m.1) name default read = read v := by
  have hmem : (name, v) ∈ ms.filter fun m => names.contains m.1 :=
    List.mem_filter.mpr ⟨hv, List.contains_iff_mem.mpr hname⟩
  rw [field?, lookup_of_mem (nodup_known h) hmem]

end Json

namespace Profile

open Json

/-! ## Fields -/

/-- A field of a `Profile`, with how it is written and read. -/
structure Field where
  name : String
  Value : Type
  get : Profile → Value
  write : Value → Json
  read : Json → Option Value
  read_write : ∀ a, read (write a) = some a
  valid_write : ∀ a, (write a).Valid

namespace Field

/-- A field that is a text. -/
def text (name : String) (get : Profile → String) : Field where
  name
  Value := String
  get
  write := .str
  read := text?
  read_write _ := rfl
  valid_write _ := trivial

/-- A field whose values have a text `textOf` that stands for each. -/
def spelled {α : Type} (name : String) (get : Profile → α) (textOf : α → String)
    (read : Json → Option α) (read_text : ∀ a, read (.str (textOf a)) = some a) : Field where
  name
  Value := α
  get
  write a := .str (textOf a)
  read
  read_write := read_text
  valid_write _ := trivial

/-- A field that is a text and may be missing. -/
def optionalText (name : String) (get : Profile → Option String) : Field where
  name
  Value := Option String
  get
  write := .opt .str
  read := optional? text?
  read_write a := by cases a <;> rfl
  valid_write a := by cases a <;> trivial

/-- A field that is a number and may be missing. -/
def optionalNumber {α : Type} (name : String) (get : Profile → Option α) (toNat : α → Nat)
    (read : Json → Option α) (read_nat : ∀ a, read (.nat (toNat a)) = some a) : Field where
  name
  Value := Option α
  get
  write := .opt fun a => .nat (toNat a)
  read := optional? read
  read_write a := by
    cases a with
    | none => rfl
    | some a =>
      show (read (.nat (toNat a))).map some = some (some a)
      rw [read_nat]
      rfl
  valid_write a := by
    cases a with
    | none => trivial
    | some a => exact valid_nat (toNat a)

end Field

theorem word16?_nat (n : UInt16) : word16? (.nat n.toNat) = some n := by
  have hle : n.toNat ≤ 0xFFFF := Nat.le_of_lt_succ n.toNat_lt
  rw [word16?, natural?_nat hle]
  simp

theorem word32?_nat (n : UInt32) : word32? (.nat n.toNat) = some n := by
  have hle : n.toNat ≤ 0xFFFFFFFF := Nat.le_of_lt_succ n.toNat_lt
  rw [word32?, natural?_nat hle]
  simp

theorem flags?_text (f : ProfileFlags) : flags? (.str f.text) = some f := by
  rw [flags?, str, text?, Option.bind_some, ProfileFlags.parse?_text]

theorem splitTunneling?_text (s : SplitTunneling) : splitTunneling? (.str s.text) = some s := by
  rw [splitTunneling?, str, text?, Option.bind_some, SplitTunneling.parse?_text]

theorem apps?_array (apps : AppSet) : apps? (.array (apps.toList.map .str)) = some apps := by
  have hitems (l : List String) : (l.map str).mapM text? = some l := by
    induction l with
    | nil => rfl
    | cons x rest ih =>
      rw [List.map_cons, List.mapM_cons, ih]
      rfl
  show ((apps.toList.map str).mapM text?).map SortedSet.ofList = some apps
  rw [hitems, Option.map_some, SortedSet.ofList_toList]

/-- The field with the set of selected apps. -/
def appsField : Field where
  name := "selectedApps"
  Value := AppSet
  get := selectedApps
  write apps := .array (apps.toList.map .str)
  read := apps?
  read_write := apps?_array
  valid_write apps := validItems_iff.mpr fun v hv => by
    obtain ⟨x, -, rfl⟩ := List.mem_map.mp hv
    trivial

/-- The fields of a `Profile`, in the order in which they are written. -/
def fields : List Field :=
  [.text "name" name,
    .text "gateway" gateway,
    .optionalNumber "port" port UInt16.toNat word16? word16?_nat,
    .spelled "vpnType" vpnType VpnType.identifier (named? VpnType.ofIdentifier?)
      VpnType.ofIdentifier?_identifier,
    .optionalText "username" username,
    .optionalText "password" password,
    .optionalText "certificateAlias" certificateAlias,
    .optionalText "localId" localId,
    .optionalText "remoteId" remoteId,
    .optionalText "ikeProposal" ikeProposal,
    .optionalText "espProposal" espProposal,
    .optionalNumber "mtu" mtu UInt16.toNat word16? word16?_nat,
    .optionalNumber "natKeepalive" natKeepalive UInt32.toNat word32? word32?_nat,
    .spelled "flags" flags ProfileFlags.text flags? flags?_text,
    .optionalText "includedSubnets" includedSubnets,
    .optionalText "excludedSubnets" excludedSubnets,
    .spelled "splitTunneling" splitTunneling SplitTunneling.text splitTunneling?
      splitTunneling?_text,
    .spelled "selectedAppsHandling" selectedAppsHandling AppSelection.name
      (named? AppSelection.ofName?) AppSelection.ofName?_name,
    appsField]

theorem map_name_fields : fields.map Field.name = fieldNames := rfl

/-- The member for the field `f` in what is written for `p`. -/
def Field.member (f : Field) (p : Profile) : String × Json := (f.name, f.write (f.get p))

theorem toJson_eq (p : Profile) : p.toJson = .obj (fields.map (·.member p)) := rfl

/-- `p` and `q` are equal if all their `fields` are. -/
theorem eq_of_fields {p q : Profile} (h : ∀ f ∈ fields, f.get p = f.get q) : p = q := by
  cases p
  cases q
  simp only [fields, List.forall_mem_cons, Field.text, Field.spelled, Field.optionalText,
    Field.optionalNumber, appsField] at h
  simp [h]

/-! ## Reading field by field -/

variable {v : Json} {fs : List (String × Json)} {p : Profile}

/-- A field `x` that is read leaves what comes after it, `f`. -/
theorem bind_of_some {α β : Type} {x : Option α} {f : α → Option β} {a : α} {b : β}
    (hx : x = some a) (hf : f a = some b) : x.bind f = some b :=
  Option.bind_eq_some_iff.mpr ⟨a, hx, hf⟩

/-- What has been read to its end has been read up to any of its fields `x`. -/
theorem of_bind_eq_some {α β : Type} {x : Option α} {f : α → Option β} {b : β} {P : Prop}
    (h : x.bind f = some b) (hP : ∀ a, x = some a → f a = some b → P) : P := by
  obtain ⟨a, hx, hf⟩ := Option.bind_eq_some_iff.mp h
  exact hP a hx hf

/-- The profile `p` that is read has in each field what is read for the field. -/
theorem field?_of_ofJson? (hfs : v.fields? fieldNames = some fs) (h : ofJson? v = some p) :
    ∀ f ∈ fields, field? fs f.name (f.get {}) f.read = some (f.get p) := by
  refine of_bind_eq_some h fun _ h₀ h =>
    of_bind_eq_some h fun _ h₁ h => of_bind_eq_some h fun _ h₂ h =>
    of_bind_eq_some h fun _ h₃ h => of_bind_eq_some h fun _ h₄ h =>
    of_bind_eq_some h fun _ h₅ h => of_bind_eq_some h fun _ h₆ h =>
    of_bind_eq_some h fun _ h₇ h => of_bind_eq_some h fun _ h₈ h =>
    of_bind_eq_some h fun _ h₉ h => of_bind_eq_some h fun _ h₁₀ h =>
    of_bind_eq_some h fun _ h₁₁ h => of_bind_eq_some h fun _ h₁₂ h =>
    of_bind_eq_some h fun _ h₁₃ h => of_bind_eq_some h fun _ h₁₄ h =>
    of_bind_eq_some h fun _ h₁₅ h => of_bind_eq_some h fun _ h₁₆ h =>
    of_bind_eq_some h fun _ h₁₇ h => of_bind_eq_some h fun _ h₁₈ h =>
    of_bind_eq_some h fun _ h₁₉ hp => ?_
  cases hp
  cases hfs.symm.trans h₀
  simp only [fields, List.forall_mem_cons]
  exact ⟨h₁, h₂, h₃, h₄, h₅, h₆, h₇, h₈, h₉, h₁₀, h₁₁, h₁₂, h₁₃, h₁₄, h₁₅, h₁₆, h₁₇, h₁₈, h₁₉,
    by simp⟩

/-- A record is read when each of the `fields` is. -/
theorem exists_ofJson? (hfs : v.fields? fieldNames = some fs)
    (h : ∀ f ∈ fields, ∃ a, field? fs f.name (f.get {}) f.read = some a) :
    ∃ p, ofJson? v = some p := by
  simp only [fields, List.forall_mem_cons] at h
  obtain ⟨⟨a₁, h₁⟩, ⟨a₂, h₂⟩, ⟨a₃, h₃⟩, ⟨a₄, h₄⟩, ⟨a₅, h₅⟩, ⟨a₆, h₆⟩, ⟨a₇, h₇⟩, ⟨a₈, h₈⟩,
    ⟨a₉, h₉⟩, ⟨a₁₀, h₁₀⟩, ⟨a₁₁, h₁₁⟩, ⟨a₁₂, h₁₂⟩, ⟨a₁₃, h₁₃⟩, ⟨a₁₄, h₁₄⟩, ⟨a₁₅, h₁₅⟩,
    ⟨a₁₆, h₁₆⟩, ⟨a₁₇, h₁₇⟩, ⟨a₁₈, h₁₈⟩, ⟨a₁₉, h₁₉⟩, -⟩ := h
  refine ⟨⟨a₁, a₂, a₃, a₄, a₅, a₆, a₇, a₈, a₉, a₁₀, a₁₁, a₁₂, a₁₃, a₁₄, a₁₅, a₁₆, a₁₇, a₁₈,
    a₁₉⟩, bind_of_some hfs ?_⟩
  exact bind_of_some h₁ <| bind_of_some h₂ <| bind_of_some h₃ <| bind_of_some h₄ <|
    bind_of_some h₅ <| bind_of_some h₆ <| bind_of_some h₇ <| bind_of_some h₈ <|
    bind_of_some h₉ <| bind_of_some h₁₀ <| bind_of_some h₁₁ <| bind_of_some h₁₂ <|
    bind_of_some h₁₃ <| bind_of_some h₁₄ <| bind_of_some h₁₅ <| bind_of_some h₁₆ <|
    bind_of_some h₁₇ <| bind_of_some h₁₈ <| bind_of_some h₁₉ rfl

/-! ## Objects in which no known name stands twice -/

variable {ms : List (String × Json)}

theorem name_mem_fieldNames {f : Field} (hf : f ∈ fields) : f.name ∈ fieldNames := by
  rw [← map_name_fields]
  exact List.mem_map_of_mem hf

theorem ofJson?_isSome_iff (h : ((ms.map Prod.fst).filter fieldNames.contains).Nodup) :
    (ofJson? (.obj ms)).isSome ↔
      ∀ f ∈ fields, ∀ v, (f.name, v) ∈ ms → (f.read v).isSome := by
  constructor
  · intro hread f hf v hv
    obtain ⟨p, hp⟩ := Option.isSome_iff_exists.mp hread
    have hfield := field?_of_ofJson? (fields?_obj h) hp f hf
    rw [field?_of_mem h (name_mem_fieldNames hf) hv] at hfield
    exact Option.isSome_iff_exists.mpr ⟨_, hfield⟩
  · intro hread
    refine Option.isSome_iff_exists.mpr (exists_ofJson? (fields?_obj h) fun f hf => ?_)
    by_cases hname : f.name ∈ ms.map Prod.fst
    · obtain ⟨⟨name, v⟩, hv, rfl⟩ := List.mem_map.mp hname
      rw [field?_of_mem h (name_mem_fieldNames hf) hv]
      exact Option.isSome_iff_exists.mp (hread f hf v hv)
    · exact ⟨_, field?_of_notMem hname⟩

theorem get_of_ofJson? (h : ((ms.map Prod.fst).filter fieldNames.contains).Nodup)
    (hp : ofJson? (.obj ms) = some p) {f : Field} (hf : f ∈ fields) :
    (f.name ∉ ms.map Prod.fst → f.get p = f.get {}) ∧
      ∀ v, (f.name, v) ∈ ms → f.read v = some (f.get p) := by
  have hfield := field?_of_ofJson? (fields?_obj h) hp f hf
  refine ⟨fun hname => ?_, fun v hv => ?_⟩
  · rw [field?_of_notMem hname] at hfield
    exact (Option.some.inj hfield).symm
  · rwa [field?_of_mem h (name_mem_fieldNames hf) hv] at hfield

/-- A member that is written for a value `a` of the field `f` is read as `a`. -/
theorem get_of_write_mem (h : ((ms.map Prod.fst).filter fieldNames.contains).Nodup)
    (hp : ofJson? (.obj ms) = some p) {f : Field} (hf : f ∈ fields) {a : f.Value}
    (ha : (f.name, f.write a) ∈ ms) : f.get p = a := by
  have hread := (get_of_ofJson? h hp hf).2 _ ha
  rw [f.read_write] at hread
  exact (Option.some.inj hread).symm

/-! ## Reading back -/

theorem valid_toJson (p : Profile) : p.toJson.Valid := by
  rw [toJson_eq]
  refine validMembers_iff.mpr fun m hm => ?_
  rw [List.map_map] at hm
  obtain ⟨f, -, rfl⟩ := List.mem_map.mp hm
  exact f.valid_write (f.get p)

/-- Under the name of the field `f` stands what is written for it. -/
theorem eq_write_of_mem {f : Field} {v : Json} (hf : f ∈ fields)
    (hv : (f.name, v) ∈ fields.map (·.member p)) : v = f.write (f.get p) := by
  obtain ⟨g, hg, hmember⟩ := List.mem_map.mp hv
  obtain ⟨hname, rfl⟩ := Prod.mk.inj hmember
  have hnodup : (fields.map Field.name).Nodup := by
    rw [map_name_fields]
    decide
  rw [List.inj_on_of_nodup_map hnodup hg hf hname]

theorem ofJson?_toJson (p : Profile) : ofJson? p.toJson = some p := by
  have hnames : (fields.map (·.member p)).map Prod.fst = fieldNames := rfl
  have hnodup : (((fields.map (·.member p)).map Prod.fst).filter fieldNames.contains).Nodup := by
    rw [hnames]
    decide
  have hwritten (f : Field) (hf : f ∈ fields) (v : Json)
      (hv : (f.name, v) ∈ fields.map (·.member p)) : f.read v = some (f.get p) := by
    rw [eq_write_of_mem hf hv, f.read_write]
  obtain ⟨q, hq⟩ := Option.isSome_iff_exists.mp <| (ofJson?_isSome_iff hnodup).mpr
    fun f hf v hv => Option.isSome_iff_exists.mpr ⟨_, hwritten f hf v hv⟩
  have hqp : q = p := eq_of_fields fun f hf =>
    get_of_write_mem hnodup hq hf (List.mem_map_of_mem hf)
  rw [toJson_eq, hq, hqp]

theorem parse?_toJson (p : Profile) : parse? (String.ofList p.toJson.render) = some p := by
  rw [parse?, Json.parse?_render (valid_toJson p), Option.bind_some, ofJson?_toJson]

/-- `parse?` undoes `toJson`, so what is written tells `p` and `q` apart; and a profile is its
`fields`. An object with the members `ms`, in which no known name stands twice, is read when its
known members are, in any order and beside any others: a field that it leaves out has its default,
and the rest is as it says. -/
theorem json_faithful :
    (∀ p : Profile, parse? (String.ofList p.toJson.render) = some p) ∧
    (∀ p q : Profile, p.toJson.render = q.toJson.render → p = q) ∧
    (∀ p q : Profile, (∀ f ∈ fields, f.get p = f.get q) → p = q) ∧
    ∀ (text : String) (ms : List (String × Json)), Json.parse? text = some (.obj ms) →
      ((ms.map Prod.fst).filter fieldNames.contains).Nodup →
      ((parse? text).isSome ↔ ∀ f ∈ fields, ∀ v, (f.name, v) ∈ ms → (f.read v).isSome) ∧
      ∀ q, parse? text = some q → ∀ f ∈ fields,
        (f.name ∉ ms.map Prod.fst → f.get q = f.get {}) ∧
        (∀ v, (f.name, v) ∈ ms → f.read v = some (f.get q)) ∧
        ∀ a, (f.name, f.write a) ∈ ms → f.get q = a := by
  refine ⟨parse?_toJson, fun p q h => ?_, fun p q => eq_of_fields, fun text ms hms hnodup => ?_⟩
  · have hp := parse?_toJson p
    rw [h, parse?_toJson q] at hp
    exact (Option.some.inj hp).symm
  · have hread : parse? text = ofJson? (.obj ms) := by rw [parse?, hms, Option.bind_some]
    rw [hread]
    refine ⟨ofJson?_isSome_iff hnodup, fun q hq f hf => ?_⟩
    obtain ⟨habsent, hpresent⟩ := get_of_ofJson? hnodup hq hf
    exact ⟨habsent, hpresent, fun a => get_of_write_mem hnodup hq hf⟩

/-- An object in which an unknown member `"x"` comes first and most fields are left out. -/
theorem json_faithful_partial :
    parse? "\x7b\"x\":[1.5], \"flags\":\"RSA_PSS | 0x100\", \"name\":\"a\"\x7d" =
      some { name := "a", flags := ⟨0x110⟩ } := by
  have hms : Json.parse? "\x7b\"x\":[1.5], \"flags\":\"RSA_PSS | 0x100\", \"name\":\"a\"\x7d" =
      some (.obj [("x", .array [.number "1.5"]), ("flags", .str "RSA_PSS | 0x100"),
        ("name", .str "a")]) := by rfl
  have hflags : flags? (.string (some "RSA_PSS | 0x100")) = some ⟨0x110⟩ := by rfl
  obtain ⟨hread, hfields⟩ := json_faithful.2.2.2 _ _ hms (by decide)
  obtain ⟨q, hq⟩ := Option.isSome_iff_exists.mp <| hread.mpr <| by
    simp [fields, Field.text, Field.spelled, Field.optionalText, Field.optionalNumber, appsField,
      text?, str, hflags]
  have hget (f : Field) (hf : f ∈ fields) :=
    And.intro (hfields q hq f hf).1 (hfields q hq f hf).2.1
  simp [fields, Field.text, Field.spelled, Field.optionalText, Field.optionalNumber, appsField,
    text?, str, hflags] at hget
  rw [hq]
  cases q
  simp_all

end Profile

end SplitTunnel
