/-!
# Characters of a sequence of bytes

How the files of `SPEC_FULL.md` §10.1 and §10.3 are read.

* `symbols`: the bytes as UTF-8, each shortest form of a code point being one character, and each
  byte that belongs to none standing alone as `none`.
-/

namespace SplitTunnel.Text

/-- The six low bits of `b`, if it is a byte that continues a character. -/
def continuation? (b : UInt8) : Option Nat :=
  if b.toNat / 0x40 = 2 then some (b.toNat % 0x40) else none

/-- The character with code point `n`, if it is one and `n` is at least `least`. -/
def scalar? (least n : Nat) : Option Char :=
  if least ≤ n ∧ n.isValidChar then some (Char.ofNat n) else none

/-- The character of the two bytes `a` and `b`. -/
def twoBytes? (a b : UInt8) : Option Char :=
  if a.toNat / 0x20 = 6 then
    (continuation? b).bind fun b => scalar? 0x80 (a.toNat % 0x20 * 0x40 + b)
  else none

/-- The character of the three bytes `a`, `b` and `c`. -/
def threeBytes? (a b c : UInt8) : Option Char :=
  if a.toNat / 0x10 = 14 then do
    let b ← continuation? b
    let c ← continuation? c
    scalar? 0x800 ((a.toNat % 0x10 * 0x40 + b) * 0x40 + c)
  else none

/-- The character of the four bytes `a`, `b`, `c` and `d`. -/
def fourBytes? (a b c d : UInt8) : Option Char :=
  if a.toNat / 8 = 30 then do
    let b ← continuation? b
    let c ← continuation? c
    let d ← continuation? d
    scalar? 0x10000 (((a.toNat % 8 * 0x40 + b) * 0x40 + c) * 0x40 + d)
  else none

/-- The character at the start of the bytes, with the bytes after it. -/
def firstChar? : List UInt8 → Option (Char × List UInt8)
  | [] => none
  | a :: rest =>
    if a.toNat < 0x80 then some (Char.ofNat a.toNat, rest)
    else match rest with
      | [] => none
      | b :: rest₂ =>
        match twoBytes? a b with
        | some ch => some (ch, rest₂)
        | none => match rest₂ with
          | [] => none
          | c :: rest₃ =>
            match threeBytes? a b c with
            | some ch => some (ch, rest₃)
            | none => match rest₃ with
              | [] => none
              | d :: rest₄ => (fourBytes? a b c d).map fun ch => (ch, rest₄)

theorem firstChar?_length {bs rest : List UInt8} {c : Char} (h : firstChar? bs = some (c, rest)) :
    rest.length < bs.length := by
  simp only [firstChar?] at h
  split at h
  · simp at h
  · split at h
    · simp only [Option.some.injEq, Prod.mk.injEq] at h
      simp [h.2]
    · split at h
      · simp at h
      · split at h
        · simp only [Option.some.injEq, Prod.mk.injEq] at h
          simp only [← h.2, List.length_cons]; omega
        · split at h
          · simp at h
          · split at h
            · simp only [Option.some.injEq, Prod.mk.injEq] at h
              simp only [← h.2, List.length_cons]; omega
            · split at h
              · simp at h
              · simp only [Option.map_eq_some_iff, Prod.mk.injEq] at h
                obtain ⟨_, _, _, h⟩ := h
                simp only [← h, List.length_cons]; omega

/-- The characters of `bytes`, last first and in front of `done`. -/
def symbolsOnto (done : List (Option Char)) (bytes : List UInt8) : List (Option Char) :=
  match _h : firstChar? bytes with
  | some (c, rest) => symbolsOnto (some c :: done) rest
  | none =>
    match bytes with
    | [] => done
    | _ :: rest => symbolsOnto (none :: done) rest
termination_by bytes.length
decreasing_by
  · exact firstChar?_length _h
  · simp

/-- The characters of `bytes`, with `none` for each byte that belongs to no character. -/
def symbols (bytes : List UInt8) : List (Option Char) := (symbolsOnto [] bytes).reverse

end SplitTunnel.Text
