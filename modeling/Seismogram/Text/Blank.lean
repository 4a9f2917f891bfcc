/-
# White space, words and trimming

White space is the Unicode property of that name.  The information separators from U+001C
to U+001F, the zero-width space and the byte order mark do not have it.

* `words` are the longest runs of characters that are not white space;
* `trimEnd` and `trim` take characters of a class off the ends of a text.
-/

namespace Seismogram.Text

/-- The ranges of the property White_Space. -/
def blankRanges : List (Nat × Nat) :=
  [(0x0009, 0x000D), (0x0020, 0x0020), (0x0085, 0x0085), (0x00A0, 0x00A0), (0x1680, 0x1680),
   (0x2000, 0x200A), (0x2028, 0x2029), (0x202F, 0x202F), (0x205F, 0x205F), (0x3000, 0x3000)]

/-- Whether one of the ranges holds a character. -/
def inRanges (ranges : List (Nat × Nat)) (c : Char) : Bool :=
  ranges.any fun (first, last) => decide (first ≤ c.toNat) && decide (c.toNat ≤ last)

/-- The character is white space. -/
def isBlank (c : Char) : Bool := inRanges blankRanges c

/-- The words of a text that follows the characters `begun`, the latest first, of a word. -/
def wordsFrom (begun : List Char) : List Char → List (List Char)
  | [] => if begun.isEmpty then [] else [begun.reverse]
  | c :: cs =>
    if isBlank c then
      if begun.isEmpty then wordsFrom [] cs else begun.reverse :: wordsFrom [] cs
    else wordsFrom (c :: begun) cs

/-- The words of a text, in order. -/
def words (text : List Char) : List (List Char) := wordsFrom [] text

/-- The text without the characters of a class at its end. -/
def trimEnd (dropped : Char → Bool) (text : List Char) : List Char :=
  (text.reverse.dropWhile dropped).reverse

/-- The text without white space at either end. -/
def trim (text : List Char) : List Char := trimEnd isBlank (text.dropWhile isBlank)

/-! ## Small facts -/

theorem words_cons_of_isBlank {c : Char} (h : isBlank c) (text : List Char) :
    words (c :: text) = words text := by
  simp [words, wordsFrom, h]

theorem trimEnd_eq_self {dropped : Char → Bool} {text : List Char}
    (h : ∀ c ∈ text.getLast?, dropped c = false) : trimEnd dropped text = text := by
  cases hr : text.reverse with
  | nil => simp_all [trimEnd]
  | cons c cs =>
    have last : text.getLast? = some c := by
      rw [← List.head?_reverse, hr]; rfl
    have keep : dropped c = false := h c (by simp [last])
    rw [trimEnd, hr, List.dropWhile_cons, keep]
    simp [← hr]

example : words "  a b\tc ".toList = [['a'], ['b'], ['c']] := by decide

end Seismogram.Text
