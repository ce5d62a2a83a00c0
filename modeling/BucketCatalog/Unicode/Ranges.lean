import BucketCatalog.Text

/-!
# Sets of code points

A set of code points as ascending ranges that do not touch, so that equal sets are equal lists.
Tables write a set as lines of text: hexadecimal bounds joined by a dash, a single code point for a
range of one, and bounds joined by a tilde for every second code point between them.
-/

namespace BucketCatalog
namespace Unicode

/-- Ranges of code points, each with its first and its last member. -/
abbrev Ranges := List (Nat × Nat)

/-- The last code point. -/
def lastCode : Nat := 0x10FFFF

namespace Ranges

/-- Whether a code point is in one of the ranges, which are ascending. -/
def contains : Ranges → Nat → Bool
  | [], _ => false
  | range :: rest, code => range.1 ≤ code && (code ≤ range.2 || contains rest code)

/-- A range and others that begin no earlier, joined where they touch. -/
def join (range : Nat × Nat) : Ranges → Ranges
  | [] => [range]
  | next :: rest =>
      if next.1 ≤ range.2 + 1 then join (range.1, max range.2 next.2) rest
      else range :: join next rest

/-- Ranges in the order in which they begin, joined where they touch. -/
def joined : Ranges → Ranges
  | [] => []
  | range :: rest => join range rest

/-- Whether a range begins no later than another. -/
def beginsFirst (range other : Nat × Nat) : Bool :=
  range.1 ≤ other.1

/-- The set of the code points of any ranges. -/
def ofList (ranges : List (Nat × Nat)) : Ranges :=
  joined (ranges.mergeSort beginsFirst)

/-- The code points of either set. -/
def union (left right : Ranges) : Ranges :=
  joined (List.merge left right beginsFirst)

/-- The code points of some set of a list. -/
def unions (sets : List Ranges) : Ranges :=
  sets.foldl union []

/-- The code points from a place on that are in none of the ranges, which begin no earlier. -/
def gaps (first : Nat) : Ranges → Ranges
  | [] => if first ≤ lastCode then [(first, lastCode)] else []
  | range :: rest =>
      if first < range.1 then (first, range.1 - 1) :: gaps (range.2 + 1) rest
      else gaps (range.2 + 1) rest

/-- The code points that a set does not have. -/
def compl (set : Ranges) : Ranges :=
  gaps 0 set

/-- The code points of both sets. -/
def inter (left right : Ranges) : Ranges :=
  (left.compl.union right.compl).compl

/-- The code points of the first set that the second does not have. -/
def minus (left right : Ranges) : Ranges :=
  (left.compl.union right).compl

/-- The code points of exactly one of two sets. -/
def either (left right : Ranges) : Ranges :=
  (left.minus right).union (right.minus left)

end Ranges

/-- The value of a row of lowercase hexadecimal digits. -/
def hexNumber (digits : List Char) : Nat :=
  digits.foldl
    (fun value digit =>
      value * 16 +
        if digit.isDigit then digit.toNat - '0'.toNat else digit.toNat - 'a'.toNat + 10)
    0

/-- The words of lines of text, the blanks between them left out. -/
def words (lines : List String) : List (List Char) :=
  lines.flatMap fun line => line.toList.splitOn ' '

/-- The ranges that a word stands for. -/
def Ranges.ofWord (word : List Char) : Ranges :=
  match Text.splitFirst ['-'] word with
  | some (first, last) => [(hexNumber first, hexNumber last)]
  | none =>
      match Text.splitFirst ['~'] word with
      | some (first, last) =>
          let first := hexNumber first
          (List.range ((hexNumber last - first) / 2 + 1)).map fun index =>
            (first + 2 * index, first + 2 * index)
      | none => [(hexNumber word, hexNumber word)]

/-- The set that lines of text list. -/
def Ranges.ofLines (lines : List String) : Ranges :=
  .ofList ((words lines).flatMap Ranges.ofWord)

/-- The code points of a range. -/
def codesOf (range : Nat × Nat) : List Nat :=
  (List.range (range.2 + 1 - range.1)).map fun index => range.1 + index

/-- The classes that a word stands for: a class of code points joined by colons, or a pair for each
code point of a range, which is followed by a plus and the distance of the other. -/
def classesOfWord (word : List Char) : List (List Nat) :=
  match Text.splitFirst ['+'] word with
  | some (range, distance) =>
      ((Ranges.ofWord range).flatMap codesOf).map fun code => [code, code + hexNumber distance]
  | none => [(word.splitOn ':').map hexNumber]

/-- The classes that lines of text list. -/
def classesOfLines (lines : List String) : List (List Nat) :=
  (words lines).flatMap classesOfWord

end Unicode
end BucketCatalog
