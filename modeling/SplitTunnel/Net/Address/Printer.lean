import SplitTunnel.Net.Address

/-!
# Writing addresses (the bare addresses of `SPEC_FULL.md` §4.1, `Display`)

* `dotted` (IPv4): four decimal numbers joined by dots.
* `compressed` (IPv6): eight hexadecimal numbers joined by colons. The first among the longest runs
  of at least two zero groups is left out, which leaves two colons in a row. An address that
  `isMapped` (`::ffff:0:0/96`) ends in the dotted form, and no other does.
-/

namespace SplitTunnel.Net.Address

open Text

/-- The decimal numbers `os`, joined by dots. -/
def dotted (os : List Nat) : List Char := ['.'].intercalate (os.map decimal)

/-- The hexadecimal numbers `gs`, joined by colons. -/
def colons (gs : List Nat) : List Char := [':'].intercalate (gs.map hexadecimal)

/-- How many zeros stand in a row in `gs` from position `i` on. -/
def zerosFrom (gs : List Nat) (i : Nat) : Nat := ((gs.drop i).takeWhile (· == 0)).length

/-- Start and length of the first among the longest runs of zeros in `gs`. -/
def longestZeros (gs : List Nat) : Nat × Nat :=
  (List.range gs.length).foldl
    (fun best i => if best.2 < zerosFrom gs i then (i, zerosFrom gs i) else best) (0, 0)

/-- `colons gs` with `longestZeros gs` left out, if that run has at least two zeros. -/
def compressed (gs : List Nat) : List Char :=
  let (start, count) := longestZeros gs
  if count < 2 then colons gs
  else colons (gs.take start) ++ [':', ':'] ++ colons (gs.drop (start + count))

/-- `a` is in `::ffff:0:0/96`, where IPv6 addresses stand for IPv4 ones. -/
def isMapped (a : Address) : Bool := a.family == .ipv6 && a.value / Family.ipv4.size == 0xFFFF

/-- `a` as `dotted`, or as `compressed` groups. -/
def chars (a : Address) : List Char :=
  match a.family with
  | .ipv4 => dotted a.octets
  | .ipv6 =>
    if a.isMapped then "::ffff:".toList ++ dotted (places 256 4 (a.value % Family.ipv4.size))
    else compressed a.groups

/-- `a.chars` as a string. -/
def text (a : Address) : String := String.ofList a.chars

end SplitTunnel.Net.Address
