import SplitTunnel.Net.Family
import SplitTunnel.Text.Numeral

/-!
# Internet addresses (`SPEC_FULL.md` §3)

An address is a family together with a number below `Family.size`.

* `Address.ofNat?`: the address with a given number, if the family has one.
* `Address.network`: the address with all but its leading bits cleared.
* `Address.isMulticast`, `Address.isUnspecified`: the two special blocks that decisions ask for.
* Addresses are ordered by `Family.rank` and then by `Address.value`.
-/

namespace SplitTunnel.Net

open Text

/-- The address of `family` with number `value`. -/
@[ext]
structure Address where
  family : Family
  value : Nat
  value_lt : value < family.size
deriving DecidableEq, Repr

namespace Address

/-- The address of `f` with number `n`, if `n < f.size`. -/
def ofNat? (f : Family) (n : Nat) : Option Address :=
  if h : n < f.size then some ⟨f, n, h⟩ else none

/-- The address of `f` with all bits clear. -/
def zero (f : Family) : Address := ⟨f, 0, f.size_pos⟩

instance : Inhabited Address := ⟨zero .ipv4⟩

/-- The four numbers of the dotted form of `a`. -/
def octets (a : Address) : List Nat := places 256 4 a.value

/-- The eight numbers of the colon form of `a`. -/
def groups (a : Address) : List Nat := places 65536 8 a.value

/-- The first address of the `2 ^ hostBits` addresses that differ from `a` in the last bits only. -/
def clearLast (a : Address) (hostBits : Nat) : Address :=
  ⟨a.family, a.value / 2 ^ hostBits * 2 ^ hostBits,
    Nat.lt_of_le_of_lt (Nat.div_mul_le_self ..) a.value_lt⟩

/-- `a` with every bit after the first `n` cleared. -/
def network (a : Address) (n : Nat) : Address := a.clearLast (a.family.width - n)

/-- `a` is in 224.0.0.0/4 or ff00::/8. -/
def isMulticast (a : Address) : Bool :=
  match a.family with
  | .ipv4 => a.value / 2 ^ (Family.ipv4.width - 4) == 0xE
  | .ipv6 => a.value / 2 ^ (Family.ipv6.width - 8) == 0xFF

/-- `a` is 0.0.0.0 or `::`. -/
def isUnspecified (a : Address) : Bool := a.value == 0

instance : Ord Address :=
  ⟨compareLex (compareOn fun a => a.family.rank) (compareOn fun a => a.value)⟩

instance : Std.TransOrd Address :=
  inferInstanceAs (Std.TransCmp (compareLex (compareOn fun a : Address => a.family.rank)
    (compareOn fun a : Address => a.value)))

theorem ofNat?_value (a : Address) : ofNat? a.family a.value = some a := by
  simp [ofNat?, a.value_lt]

theorem ofNat?_eq_some_iff {f : Family} {n : Nat} {a : Address} :
    ofNat? f n = some a ↔ a.family = f ∧ a.value = n := by
  constructor
  · intro h
    simp only [ofNat?] at h
    split at h
    · cases h; exact ⟨rfl, rfl⟩
    · cases h
  · rintro ⟨rfl, rfl⟩
    exact ofNat?_value a

theorem dvd_clearLast (a : Address) (n : Nat) : 2 ^ n ∣ (a.clearLast n).value :=
  Nat.dvd_mul_left ..

end Address

end SplitTunnel.Net
