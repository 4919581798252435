import SplitTunnel.Flags
import SplitTunnel.Net.Family

/-!
# The flag words of a profile (`SPEC_FULL.md` §3)

* `ProfileFlags`: options of the negotiation.
* `SplitTunneling`: the families whose traffic never leaves the device outside the tunnel.
-/

namespace SplitTunnel

open Net

/-- Options of the negotiation, as bits. -/
structure ProfileFlags where
  bits : UInt32
deriving DecidableEq, Repr, Inhabited

namespace ProfileFlags

def suppressCertReqs : UInt32 := 1

def disableCrl : UInt32 := 2

def disableOcsp : UInt32 := 4

def strictRevocation : UInt32 := 8

def rsaPss : UInt32 := 16

/-- The names of the options in texts, with their bits. -/
def table : FlagTable where
  width := 32
  names := [("SUPPRESS_CERT_REQS", 1), ("DISABLE_CRL", 2), ("DISABLE_OCSP", 4),
    ("STRICT_REVOCATION", 8), ("RSA_PSS", 16)]

/-- The word without an option. -/
def none : ProfileFlags := ⟨0⟩

/-- All bits of `flag` are set in `f`. -/
def has (f : ProfileFlags) (flag : UInt32) : Bool := f.bits &&& flag == flag

/-- `f` as a text, by `table`. -/
def text (f : ProfileFlags) : String := String.ofList (table.write f.bits.toNat)

/-- The options that `text` stands for. -/
def parse? (text : String) : Option ProfileFlags :=
  (table.read? text.toList).map fun n => ⟨UInt32.ofNat n⟩

end ProfileFlags

/-- The families that are blocked outside the tunnel, as bits. -/
structure SplitTunneling where
  bits : UInt8
deriving DecidableEq, Repr, Inhabited

namespace SplitTunneling

/-- The bit of `f`. -/
def flag : Family → UInt8
  | .ipv4 => 1
  | .ipv6 => 2

/-- The names of the bits in texts. -/
def table : FlagTable where
  width := 8
  names := [("BLOCK_IPV4", 1), ("BLOCK_IPV6", 2)]

/-- The word without a family. -/
def none : SplitTunneling := ⟨0⟩

/-- `f` is blocked outside the tunnel. -/
def blocks (s : SplitTunneling) (f : Family) : Bool := s.bits &&& flag f == flag f

/-- `s` as a text, by `table`. -/
def text (s : SplitTunneling) : String := String.ofList (table.write s.bits.toNat)

/-- The blocked families that `text` stands for. -/
def parse? (text : String) : Option SplitTunneling :=
  (table.read? text.toList).map fun n => ⟨UInt8.ofNat n⟩

end SplitTunneling

end SplitTunnel
