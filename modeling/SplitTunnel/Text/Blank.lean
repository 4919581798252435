/-!
# Blank characters

The characters with the Unicode property `White_Space`, at which the lists of `SPEC_FULL.md` §4.1
are cut into items.

* `isBlank`: the 25 characters of the property.
* `trim`: a text without the blanks at its two ends.
* `words`: the maximal runs of characters that are not blank, in order.
-/

namespace SplitTunnel.Text

/-- `c` has the Unicode property `White_Space`. -/
def isBlank (c : Char) : Bool :=
  let n := c.toNat
  (0x09 ≤ n && n ≤ 0x0D) || n == 0x20 || n == 0x85 || n == 0xA0 || n == 0x1680 ||
    (0x2000 ≤ n && n ≤ 0x200A) || n == 0x2028 || n == 0x2029 || n == 0x202F || n == 0x205F ||
    n == 0x3000

/-- `text` without the characters that are `isBlank` at its two ends. -/
def trim (text : List Char) : List Char :=
  ((text.dropWhile isBlank).reverse.dropWhile isBlank).reverse

/-- The maximal runs of characters of `text` that are not `isBlank`. -/
def words (text : List Char) : List (List Char) :=
  (text.splitOnP isBlank).filter fun w => !w.isEmpty

@[simp] theorem words_nil : words [] = [] := rfl

/-- The words of `s` and `t` with a blank `c` between them are those of `s` and then those of `t`.
-/
theorem words_append_blank {s t : List Char} {c : Char} (h : isBlank c = true) :
    words (s ++ c :: t) = words s ++ words t := by
  simp [words, List.splitOnP_append_cons s t h]

end SplitTunnel.Text
