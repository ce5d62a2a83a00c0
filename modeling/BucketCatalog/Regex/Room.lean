import BucketCatalog.Regex.Pattern

/-!
# The room of a pattern

How large the automata of a pattern are.  An automaton reads UTF-8, byte by byte, and there is one
for each direction, since a search may go back from the end of a match to its beginning.  A pattern
`fits` if neither of its automata is larger than `maxRoom`.
-/

namespace BucketCatalog
namespace Regex

/-- The largest room, in bytes, that an automaton may take. -/
def maxRoom : Nat := 10485760

/-- The room of a state. -/
def stateRoom : Nat := 32

/-- The room of each range of bytes that leads out of a state with any number of them. -/
def moveRoom : Nat := 8

/-- The room of each way out of a state that takes no byte. -/
def wayRoom : Nat := 4

/-- The order in which an automaton takes the bytes of a text. -/
inductive Direction where
  /-- From the first byte on. -/
  | forward
  /-- From the last byte back. -/
  | backward
  deriving DecidableEq

/-- The sum of numbers. -/
def total (numbers : List Nat) : Nat :=
  numbers.foldr Nat.add 0

/-! ## Rows with common beginnings -/

/-- Rows in groups of neighbours that begin alike, without that beginning. -/
def tails {α : Type} [BEq α] (rows : List (List α)) : List (List (List α)) :=
  (rows.splitBy fun row next => row.head? == next.head?).map fun group => group.map List.tail

/-- The number of different beginnings of rows up to a length. -/
def beginnings {α : Type} [BEq α] : Nat → List (List α) → Nat
  | 0, _ => 0
  | length + 1, rows =>
      total <| (tails (rows.filter fun row => !row.isEmpty)).map fun group =>
        1 + beginnings length group

/-- The rows, and for each of their beginnings up to a length what the rows go on with. -/
def endings {α : Type} [BEq α] : Nat → List (List α) → List (List (List α))
  | 0, _ => []
  | length + 1, rows => rows :: (tails rows).flatMap (endings length)

/-! ## Characters as bytes -/

/-- Ranges of bytes, one for each byte of a character. -/
abbrev ByteRow := List (Nat × Nat)

/-- The bytes after the first of a character start here. -/
def laterByte : Nat := 0x80

/-- Put a range of first bytes, which are counted from `lead`, before rows. -/
def withFirst (lead first last : Nat) (rows : List ByteRow) : List ByteRow :=
  rows.map fun row => (lead + first, lead + last) :: row

/-- The rows of the numbers between two that are written by a byte counted from `lead` and some
later bytes, each of six bits. -/
def byteRows (lead : Nat) : Nat → Nat → Nat → List ByteRow
  | 0, first, last => [[(lead + first, lead + last)]]
  | later + 1, first, last =>
      let unit := 64 * Nat.pow 64 later
      let low := first / unit
      let high := last / unit
      if low = high then
        withFirst lead low low (byteRows laterByte later (first % unit) (last % unit))
      else
        let start := if first % unit = 0 then low else low + 1
        let stop := if last % unit = unit - 1 then high + 1 else high
        let bottom :=
          if start = low then []
          else withFirst lead low low (byteRows laterByte later (first % unit) (unit - 1))
        let middle :=
          if start = stop then []
          else [(lead + start, lead + stop - 1) ::
            List.replicate (later + 1) (laterByte, laterByte + 63)]
        let top :=
          if stop = high then withFirst lead high high (byteRows laterByte later 0 (last % unit))
          else []
        bottom ++ middle ++ top

/-- Code points that have the same number of bytes. -/
structure Width where
  /-- The first of the code points. -/
  first : Nat
  /-- The last of the code points. -/
  last : Nat
  /-- The byte from which first bytes are counted. -/
  lead : Nat
  /-- The number of bytes after the first. -/
  later : Nat

/-- The code points of characters by their number of bytes. -/
def widths : List Width :=
  [⟨0, 0x7F, 0, 0⟩, ⟨0x80, 0x7FF, 0xC0, 1⟩, ⟨0x800, 0xD7FF, 0xE0, 2⟩, ⟨0xE000, 0xFFFF, 0xE0, 2⟩,
    ⟨0x10000, Unicode.lastCode, 0xF0, 3⟩]

/-- The largest number of bytes of a character. -/
def maxBytes : Nat := 4

/-- The rows of the code points of a range. -/
def rowsOfRange (range : Nat × Nat) : List ByteRow :=
  widths.flatMap fun width =>
    let first := max range.1 width.first
    let last := min range.2 width.last
    if first ≤ last then byteRows width.lead width.later first last else []

/-- The room of a set.  Of ASCII it is a single state.  Otherwise the forward automaton has a state
for each different way in which the rows of bytes go on, and the backward automaton a state for
each of their beginnings and a way for each row. -/
def CharSet.room (direction : Direction) (set : CharSet) : Nat :=
  if List.all set fun range => range.2 ≤ 0x7F then 2 * stateRoom + moveRoom * set.length
  else
    let rows := set.flatMap rowsOfRange
    match direction with
    | .forward =>
        let states := ((endings maxBytes rows).filter fun state => state != [[]]).eraseDups
        stateRoom + total (states.map fun state => stateRoom + moveRoom * (tails state).length)
    | .backward => (2 + beginnings maxBytes rows) * stateRoom + wayRoom * rows.length

/-! ## Choices between texts -/

/-- The bytes of a text in the order in which they are taken. -/
def bytesOf (direction : Direction) (chars : List Char) : List UInt8 :=
  let bytes := (String.ofList chars).toUTF8.toList
  match direction with
  | .forward => bytes
  | .backward => bytes.reverse

/-- Whether a text begins with a byte that is not greater than that of another. -/
def headFirst (row other : List UInt8) : Bool :=
  row.head?.getD 0 ≤ other.head?.getD 0

/-- The texts before, between and after those that are empty, one list for each stretch.  Empty
texts at the beginning count as one. -/
def stretches : List (List UInt8) → List (List (List UInt8))
  | [] :: rows => [] :: (rows.dropWhile List.isEmpty).splitOnP List.isEmpty
  | rows => rows.splitOnP List.isEmpty

/-- The room of the states of a choice between texts of at most some length.  Texts that begin with
the same byte share a state, unless a text that ends there comes between them. -/
def textsRoom : Nat → List (List UInt8) → Nat
  | 0, _ => 0
  | length + 1, rows =>
      let parts := (stretches rows).map fun part => tails (part.mergeSort headFirst)
      let filled := parts.filter fun part => !part.isEmpty
      let ways := filled.length + (parts.length - 1)
      let moves := filled.map fun part =>
        if part.length = 1 then stateRoom else stateRoom + moveRoom * part.length
      let inner := parts.flatten.map fun group =>
        if group.all List.isEmpty then 0 else textsRoom length group
      stateRoom + wayRoom * ways + total moves + total inner

/-- The room of a choice between texts. -/
def choiceRoom (direction : Direction) (texts : List (List Char)) : Nat :=
  let rows := texts.map (bytesOf direction)
  stateRoom + textsRoom ((rows.map List.length).foldl max 0 + 1) rows

/-! ## Patterns -/

/-- The room of a repetition of a body, which may take no byte if `consumes` is false. -/
def timesRoom (body : Nat) (consumes : Bool) : Nat → Option Nat → Nat
  | 0, none =>
      if consumes then body + stateRoom + 2 * wayRoom else body + 3 * stateRoom + 4 * wayRoom
  | least, none => least * body + stateRoom + 2 * wayRoom
  | 0, some 1 => body + 2 * stateRoom + 2 * wayRoom
  | least, some most =>
      let required := if least = 0 then stateRoom else least * body
      if most ≤ least then required
      else required + stateRoom + (most - least) * (body + stateRoom + 2 * wayRoom)

namespace Pattern

/-- The characters of a text. -/
def text? : Pattern → Option (List Char)
  | .text chars => some chars
  | _ => none

/-- The room of a choice by the rooms of its branches, or of the only branch. -/
def joinedRoom (direction : Direction) (pattern : Pattern) : List Nat → Nat
  | [room] => room
  | rooms =>
      match pattern.branches.mapM text? with
      | some texts => choiceRoom direction texts
      | none => 2 * stateRoom + wayRoom * rooms.length + total rooms

/-- The rooms of the branches of a pattern.  Only the forward automaton marks where groups begin and
end. -/
def branchRooms (direction : Direction) : Pattern → List Nat
  | .empty => [stateRoom]
  | .text chars => [stateRoom * (bytesOf direction chars).length]
  | .one set => [set.room direction]
  | .check _ => [stateRoom]
  | .both first second =>
      [first.joinedRoom direction (first.branchRooms direction)
        + second.joinedRoom direction (second.branchRooms direction)]
  | .either first second => first.branchRooms direction ++ second.branchRooms direction
  | .repeated body least most _ =>
      [timesRoom (body.joinedRoom direction (body.branchRooms direction)) body.consumes least most]
  | .group _ body =>
      let inside := body.joinedRoom direction (body.branchRooms direction)
      match direction with
      | .forward => [inside + 2 * stateRoom]
      | .backward => [inside]

/-- The room of a pattern inside an automaton. -/
def room (direction : Direction) (pattern : Pattern) : Nat :=
  pattern.joinedRoom direction (pattern.branchRooms direction)

/-- Whether matches can only begin at the start of the text, as far as assertions tell. -/
def startsText : Pattern → Bool
  | .check assertion => assertion = .textStart
  | .both first second => first.startsText || (first.takesNothing && second.startsText)
  | .either first second => first.startsText && second.startsText
  | .repeated body least _ _ => least != 0 && body.startsText
  | .group _ body => body.startsText
  | _ => false

/-- Whether matches can only end at the end of the text, as far as assertions tell. -/
def endsText : Pattern → Bool
  | .check assertion => assertion = .textEnd
  | .both first second => second.endsText || (second.takesNothing && first.endsText)
  | .either first second => first.endsText && second.endsText
  | .repeated body least _ _ => least != 0 && body.endsText
  | .group _ body => body.endsText
  | _ => false

/-- The room of the states that let a match begin anywhere, or at one place only. -/
def entryRoom (fixed : Bool) : Nat :=
  if fixed then stateRoom else 3 * stateRoom + moveRoom + 2 * wayRoom

/-- Whether the automata of a pattern are small enough. -/
def fits (pattern : Pattern) : Bool :=
  pattern.room .forward + 3 * stateRoom + entryRoom pattern.startsText ≤ maxRoom
    && pattern.room .backward + stateRoom + entryRoom pattern.endsText ≤ maxRoom

end Pattern
end Regex
end BucketCatalog
