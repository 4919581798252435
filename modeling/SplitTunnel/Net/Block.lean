import SplitTunnel.Net.Address
import SplitTunnel.Net.Span

/-!
# CIDR blocks (`SPEC_FULL.md` §3, `IpRange`)

A block is the set of all addresses of one family that share their first `prefixLength` bits. It
is held by its first address, so two blocks are equal exactly when their fields are.

* `Block.of?`: the block of a given length around an address, if the family has that many bits.
* `Block.host`: the block of one address. `Block.whole`: the block of a whole family.
* `Block.span`: the block's addresses as a range.
* Blocks are ordered by `base` and then by `prefixLength`.
-/

namespace SplitTunnel.Net

/-- All addresses that agree with `base` in the first `prefixLength` bits; `base` is the first. -/
@[ext]
structure Block where
  base : Address
  prefixLength : Nat
  prefixLength_le : prefixLength ≤ base.family.width
  dvd_base : 2 ^ (base.family.width - prefixLength) ∣ base.value
deriving Repr

namespace Block

instance : DecidableEq Block := fun _ _ => decidable_of_iff' _ Block.ext_iff

/-- The block of the addresses that share their first `n` bits with `a`, if `n ≤ a.family.width`. -/
def of? (a : Address) (n : Nat) : Option Block :=
  if h : n ≤ a.family.width then some ⟨a.network n, n, h, a.dvd_clearLast _⟩ else none

/-- The block that holds `a` only. -/
def host (a : Address) : Block := ⟨a, a.family.width, Nat.le_refl _, by simp⟩

/-- The block of all addresses of `f`. -/
def whole (f : Family) : Block := ⟨Address.zero f, 0, Nat.zero_le _, Nat.dvd_zero _⟩

instance : Inhabited Block := ⟨whole .ipv4⟩

/-- The family of `base`. -/
def family (b : Block) : Family := b.base.family

/-- The number of low bits in which the addresses of `b` differ. -/
def hostBits (b : Block) : Nat := b.family.width - b.prefixLength

/-- `b.base` is a multicast address. -/
def isMulticast (b : Block) : Bool := b.base.isMulticast

theorem base_add_le (b : Block) : b.base.value + 2 ^ b.hostBits ≤ b.family.size := by
  have hw : b.family.width = b.hostBits + b.prefixLength := by
    have := b.prefixLength_le
    simp only [hostBits, family]; omega
  obtain ⟨k, hk⟩ := b.dvd_base
  have hlt := b.base.value_lt
  have hs : b.family.size = 2 ^ b.hostBits * 2 ^ b.prefixLength := by
    rw [Family.size, hw, Nat.pow_add]
  have hk' : b.base.value = 2 ^ b.hostBits * k := hk
  have hlt' : 2 ^ b.hostBits * k < 2 ^ b.hostBits * 2 ^ b.prefixLength := by
    rw [← hk', ← hs]; exact hlt
  have : k + 1 ≤ 2 ^ b.prefixLength := Nat.lt_of_mul_lt_mul_left hlt'
  have := Nat.mul_le_mul_left (2 ^ b.hostBits) this
  rw [hk', hs]
  rw [Nat.mul_succ] at this
  exact this

/-- The numbers of the addresses of `b`: `2 ^ b.hostBits` of them from `b.base.value` on. -/
def span (b : Block) : Span b.family where
  first := b.base.value
  last := b.base.value + (2 ^ b.hostBits - 1)
  first_le_last := Nat.le_add_right ..
  last_lt := by
    have := b.base_add_le
    have := Nat.two_pow_pos b.hostBits
    omega

instance : Ord Block := ⟨compareLex (compareOn base) (compareOn prefixLength)⟩

instance : Std.TransOrd Block :=
  inferInstanceAs (Std.TransCmp (compareLex (compareOn base) (compareOn prefixLength)))

end Block

end SplitTunnel.Net
