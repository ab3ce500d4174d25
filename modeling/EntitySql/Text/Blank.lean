/-
  This file defines membership of a character in a table of
  code point ranges, and the blank characters together with
  the trimming of texts.

  Key definitions include:
    * `CodeRanges`
    * `CodeRanges.holds`
    * `isBlank`
    * `trimStart`
    * `trim`
-/

namespace EntitySql

------------------------------------------------------------
-- Tables of code points
------------------------------------------------------------

/-
  A set of characters, given as closed ranges of code points.
-/
abbrev CodeRanges :=
  List (Nat × Nat)

/- A character belongs to a table iff some range covers it. -/
def CodeRanges.holds
    (ranges : CodeRanges)
    (c : Char) : Bool :=
  ranges.any fun r =>
    decide (r.1 ≤ c.toNat) && decide (c.toNat ≤ r.2)

------------------------------------------------------------
-- Blanks
------------------------------------------------------------

namespace Text

/- The code points with the Unicode property White_Space. -/
def blankRanges : CodeRanges :=
  [ (0x09, 0x0d), (0x20, 0x20), (0x85, 0x85), (0xa0, 0xa0),
    (0x1680, 0x1680), (0x2000, 0x200a), (0x2028, 0x2029),
    (0x202f, 0x202f), (0x205f, 0x205f), (0x3000, 0x3000) ]

/- A blank is a character of the property White_Space. -/
def isBlank
    (c : Char) : Bool :=
  blankRanges.holds c

/- Drop the blanks that a text begins with. -/
def trimStart
    (cs : List Char) : List Char :=
  cs.dropWhile isBlank

/- Drop the blanks at both ends of a text. -/
def trim
    (cs : List Char) : List Char :=
  (trimStart (trimStart cs).reverse).reverse

/- A text is empty up to blanks. -/
def isBlankText
    (s : String) : Bool :=
  s.toList.all isBlank

end Text

end EntitySql
