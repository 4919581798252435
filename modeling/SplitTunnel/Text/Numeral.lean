/-!
# Numerals

Positional notation in the two bases that the address and prefix texts of `SPEC_FULL.md` §4.1 use,
and the flag texts of the profile (§3).

* `decimal` and `hexadecimal` write a number without leading zeros, hexadecimal in lower case.
* `digit?` and `natural?` read digits of either case.
* `unsigned?` reads a bounded number that may start with a plus sign.
* `isReal` tells the decimal texts of real numbers, infinite ones included (log filters, §10.1).
* `places` and `ofPlaces`: a number as a fixed count of digits, most significant first.
-/

namespace SplitTunnel

-- A power of a number is core's, whatever else is imported.
attribute [scoped instance (2000)] instPowNat

end SplitTunnel

namespace SplitTunnel.Text

/-- The decimal digits of `n`, without leading zeros. -/
def decimal (n : Nat) : List Char := Nat.toDigits 10 n

/-- The hexadecimal digits of `n` in lower case, without leading zeros. -/
def hexadecimal (n : Nat) : List Char := Nat.toDigits 16 n

/-- The value of the ASCII digit or letter `c` as a digit of `base`. -/
def digit? (base : Nat) (c : Char) : Option Nat :=
  let n := c.toNat
  let d? := if 48 ≤ n ∧ n ≤ 57 then some (n - 48)
    else if 97 ≤ n ∧ n ≤ 122 then some (n - 87)
    else if 65 ≤ n ∧ n ≤ 90 then some (n - 55)
    else none
  d?.filter (· < base)

/-- The number that `text`, of at least one digit of `base`, denotes. -/
def natural? (base : Nat) (text : List Char) : Option Nat :=
  if text.isEmpty then none
  else text.foldlM (fun n c => (digit? base c).map (base * n + ·)) 0

/-- The number up to `limit` that `text` denotes: digits of `base`, possibly after one plus sign. -/
def unsigned? (base limit : Nat) (text : List Char) : Option Nat :=
  let digits := match text with
    | '+' :: rest => rest
    | _ => text
  (natural? base digits).filter (· ≤ limit)

/-- `text` has decimal digits only, and at least one. -/
def isDigits (text : List Char) : Bool := !text.isEmpty && text.all Char.isDigit

/-- `text` may stand after the letter of an exponent: digits, possibly after one sign. -/
def isExponent (text : List Char) : Bool :=
  match text with
  | '+' :: rest | '-' :: rest => isDigits rest
  | _ => isDigits text

/-- `text` is empty, or an exponent with its letter. -/
def isScale (text : List Char) : Bool :=
  match text with
  | [] => true
  | c :: rest => (c == 'e' || c == 'E') && isExponent rest

/-- `text` is digits with at most one point among, before or behind them, and then `isScale`. -/
def isFinite (text : List Char) : Bool :=
  let whole := text.takeWhile Char.isDigit
  match text.dropWhile Char.isDigit with
  | '.' :: rest =>
    (!whole.isEmpty || isDigits (rest.takeWhile Char.isDigit)) &&
      isScale (rest.dropWhile Char.isDigit)
  | rest => !whole.isEmpty && isScale rest

/-- `text` is a real number in decimal, or the name of one that is none, possibly after one sign.
Names may be in letters of either case. -/
def isReal (text : List Char) : Bool :=
  let unsigned := match text with
    | '+' :: rest | '-' :: rest => rest
    | _ => text
  isFinite unsigned ||
    ["inf", "infinity", "nan"].contains (String.ofList (unsigned.map Char.toLower))

/-- The `count` lowest digits of `n` in `base`, most significant first. -/
def places (base : Nat) : Nat → Nat → List Nat
  | 0, _ => []
  | count + 1, n => places base count (n / base) ++ [n % base]

/-- The number with the given `digits` in `base`, most significant first. -/
def ofPlaces (base : Nat) (digits : List Nat) : Nat := digits.foldl (fun n d => base * n + d) 0

@[simp] theorem length_places (base count n : Nat) : (places base count n).length = count := by
  induction count generalizing n with
  | zero => rfl
  | succ count ih => simp [places, ih]

theorem lt_of_mem_places {base count n d : Nat} (hb : 0 < base) (h : d ∈ places base count n) :
    d < base := by
  induction count generalizing n with
  | zero => simp [places] at h
  | succ count ih =>
    simp only [places, List.mem_append, List.mem_singleton] at h
    rcases h with h | rfl
    · exact ih h
    · exact Nat.mod_lt _ hb

@[simp] theorem ofPlaces_nil (base : Nat) : ofPlaces base [] = 0 := rfl

theorem ofPlaces_append_singleton (base : Nat) (ds : List Nat) (d : Nat) :
    ofPlaces base (ds ++ [d]) = base * ofPlaces base ds + d := by
  simp [ofPlaces]

/-- `ofPlaces` reads from `places` the `count` lowest digits of `n`. -/
theorem ofPlaces_places (base count n : Nat) :
    ofPlaces base (places base count n) = n % base ^ count := by
  induction count generalizing n with
  | zero => simp [places, Nat.mod_one]
  | succ count ih =>
    rw [places, ofPlaces_append_singleton, ih, Nat.pow_succ, Nat.mul_comm (base ^ count) base,
      Nat.mod_mul, Nat.add_comm]

end SplitTunnel.Text
