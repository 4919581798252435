import SplitTunnel.Profile

/-!
# Settings for the negotiation engine (`SPEC_FULL.md` §4.5 and §6, serialized configuration)

A flat table of texts, written one `key="value"` line per key in ascending order of keys. A quote
and a backslash in a value stand after a backslash; keys are written as they are.

* `Settings.set`, `Settings.unset`, `Settings.setOptional`: the last write to a key holds.
* `Settings.text`: the table as a text.
* `Settings.ofProfile`: what the engine is told about a profile. Absent options leave their key
  out.
-/

namespace SplitTunnel

open Std

/-- Values by key in `entries`, in strictly ascending order of keys. -/
structure Settings where
  entries : List (String × String)
  ascending : entries.Pairwise fun a b => compare a.1 b.1 = .lt

namespace Settings

/-- The table without a key. -/
def empty : Settings := ⟨[], List.Pairwise.nil⟩

instance : Inhabited Settings := ⟨empty⟩

/-- Puts `value` under `key` among ascending ones, in place of the one that was there. -/
def setEntry (key value : String) : List (String × String) → List (String × String)
  | [] => [(key, value)]
  | (k, v) :: rest =>
    match compare key k with
    | .lt => (key, value) :: (k, v) :: rest
    | .eq => (key, value) :: rest
    | .gt => (k, v) :: setEntry key value rest

theorem mem_setEntry_cases {key value : String} {e : String × String}
    {l : List (String × String)} (h : e ∈ setEntry key value l) : e = (key, value) ∨ e ∈ l := by
  induction l with
  | nil => simpa [setEntry] using h
  | cons d rest ih =>
    obtain ⟨k, v⟩ := d
    simp only [setEntry] at h
    split at h
    · simpa using h
    · rcases List.mem_cons.mp h with h | h
      · exact Or.inl h
      · exact Or.inr (by simp [h])
    · rcases List.mem_cons.mp h with h | h
      · exact Or.inr (by simp [h])
      · rcases ih h with h | h
        · exact Or.inl h
        · exact Or.inr (by simp [h])

theorem pairwise_setEntry {key value : String} {l : List (String × String)}
    (h : l.Pairwise fun a b => compare a.1 b.1 = .lt) :
    (setEntry key value l).Pairwise fun a b => compare a.1 b.1 = .lt := by
  induction l with
  | nil => exact List.pairwise_singleton ..
  | cons d rest ih =>
    obtain ⟨k, v⟩ := d
    obtain ⟨hd, hr⟩ := List.pairwise_cons.mp h
    simp only [setEntry]
    split
    · next hlt =>
      refine List.pairwise_cons.mpr ⟨fun e he => ?_, h⟩
      rcases List.mem_cons.mp he with rfl | he
      · exact hlt
      · exact TransCmp.lt_trans hlt (hd e he)
    · next heq =>
      refine List.pairwise_cons.mpr ⟨fun e he => ?_, hr⟩
      exact TransCmp.lt_of_eq_of_lt heq (hd e he)
    · next hgt =>
      refine List.pairwise_cons.mpr ⟨fun e he => ?_, ih hr⟩
      rcases mem_setEntry_cases he with rfl | he
      · exact OrientedCmp.gt_iff_lt.mp hgt
      · exact hd e he

/-- The table with `value` under `key`. -/
def set (s : Settings) (key value : String) : Settings :=
  ⟨setEntry key value s.entries, pairwise_setEntry s.ascending⟩

/-- The table without `key`. -/
def unset (s : Settings) (key : String) : Settings :=
  ⟨s.entries.filter (·.1 ≠ key), s.ascending.filter _⟩

/-- The table with `value` under `key`, or without `key` if there is no value. -/
def setOptional (s : Settings) (key : String) : Option String → Settings
  | some value => s.set key value
  | none => s.unset key

/-- The value under `key`. -/
def get? (s : Settings) (key : String) : Option String := s.entries.lookup key

/-! ## The text -/

/-- `c` as it stands in a value. -/
def escape (c : Char) : List Char := if c = '"' ∨ c = '\\' then ['\\', c] else [c]

/-- The line `key="value"` of one entry. -/
def line (entry : String × String) : List Char :=
  entry.1.toList ++ ['=', '"'] ++ entry.2.toList.flatMap escape ++ ['"', '\n']

/-- The lines of `s.entries`. -/
def chars (s : Settings) : List Char := s.entries.flatMap line

/-- `s.chars` as a string. -/
def text (s : Settings) : String := String.ofList s.chars

/-! ## Profiles -/

/-- `b` as it is written. -/
def flag (b : Bool) : String := if b then "1" else "0"

/-- What the engine is told about `p`, for messages in `language`. -/
def ofProfile (p : Profile) (language : String) : Settings :=
  empty
    |>.set "global.language" language
    |>.setOptional "global.mtu" (p.mtu.map fun n => toString n.toNat)
    |>.setOptional "global.nat_keepalive" (p.natKeepalive.map fun n => toString n.toNat)
    |>.set "global.rsa_pss" (flag (p.flags.has ProfileFlags.rsaPss))
    |>.set "global.crl" (flag (!p.flags.has ProfileFlags.disableCrl))
    |>.set "global.ocsp" (flag (!p.flags.has ProfileFlags.disableOcsp))
    |>.set "connection.type" p.vpnType.identifier
    |>.set "connection.server" p.gateway
    |>.setOptional "connection.port" (p.port.map fun n => toString n.toNat)
    |>.setOptional "connection.username" p.username
    |>.setOptional "connection.password" p.password
    |>.setOptional "connection.local_id" p.localId
    |>.setOptional "connection.remote_id" p.remoteId
    |>.set "connection.certreq" (flag (!p.flags.has ProfileFlags.suppressCertReqs))
    |>.set "connection.strict_revocation" (flag (p.flags.has ProfileFlags.strictRevocation))
    |>.setOptional "connection.ike_proposal" p.ikeProposal
    |>.setOptional "connection.esp_proposal" p.espProposal

end Settings

end SplitTunnel
