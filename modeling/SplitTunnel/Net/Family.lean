/-!
# Address families (`SPEC_FULL.md` §3)

* `Family.width`: how many bits an address of the family has.
* `Family.size`: how many addresses the family has, one above its last address.
-/

namespace SplitTunnel

-- A power of a number is core's, whatever else is imported.
attribute [scoped instance (2000)] instPowNat

end SplitTunnel

namespace SplitTunnel.Net

/-- An address family. -/
inductive Family where
  | ipv4
  | ipv6
deriving DecidableEq, Repr, Inhabited

namespace Family

/-- Both families in the order in which they are listed everywhere. -/
def all : List Family := [.ipv4, .ipv6]

/-- The number of bits of an address: 32 or 128. -/
def width : Family → Nat
  | .ipv4 => 32
  | .ipv6 => 128

/-- The number of addresses, `2 ^ f.width`. -/
def size (f : Family) : Nat := 2 ^ f.width

/-- The name of the family in texts and documents. -/
def name : Family → String
  | .ipv4 => "ipv4"
  | .ipv6 => "ipv6"

/-- The family `f` with `f.name = s`. -/
def ofName? (s : String) : Option Family := all.find? fun f => f.name == s

/-- The position of the family in `all`. -/
def rank : Family → Nat
  | .ipv4 => 0
  | .ipv6 => 1

theorem size_pos (f : Family) : 0 < f.size := Nat.two_pow_pos _

@[simp] theorem ofName?_name (f : Family) : ofName? f.name = some f := by cases f <;> decide

end Family

end SplitTunnel.Net
