import BucketCatalog.Regex.Room
import BucketCatalog.Regex.Token

/-!
# Reading of regular expressions

`Pattern.parse` reads tokens from left to right and keeps the groups that are open.  A group holds
its finished alternatives and the items of the one that is being read.  Flags that are switched
inside a group are in force up to its end, over the bars between alternatives.
-/

namespace BucketCatalog
namespace Regex

/-- An item of an alternative. -/
inductive Item where
  /-- A pattern, with the depth of its structure. -/
  | part (pattern : Pattern) (depth : Nat)
  /-- Flags, which match nothing and cannot be repeated. -/
  | flags

/-- The pattern of an item. -/
def Item.toPattern : Item → Pattern
  | .part pattern _ => pattern
  | .flags => .empty

/-- The depth of an item. -/
def Item.depth : Item → Nat
  | .part _ depth => depth
  | .flags => 0

/-- The deepest structure that a pattern may have. -/
def maxDepth : Nat := 250

/-- Items as the pattern of an alternative, first item first. -/
def Item.joined (items : List Item) : Pattern × Nat :=
  let depth := (items.map Item.depth).foldl max 0
  (Pattern.sequence (items.map Item.toPattern), if items.length < 2 then depth else depth + 1)

/-- A group whose closing parenthesis is still to come, or the whole pattern. -/
structure Level where
  /-- The number under which the text of the group is kept, if it is. -/
  index : Option Nat
  /-- The flags in force around the group. -/
  around : Flags
  /-- The finished alternatives with their depths, the newest first. -/
  branches : List (Pattern × Nat)
  /-- The items of the alternative that is being read, the newest first. -/
  items : List Item

/-- A group without content. -/
def Level.open (index : Option Nat) (around : Flags) : Level where
  index := index
  around := around
  branches := []
  items := []

/-- Put an item into a group. -/
def Level.add (level : Level) (item : Item) : Level :=
  { level with items := item :: level.items }

/-- Finish an alternative. -/
def Level.finishBranch (level : Level) : Level :=
  { level with branches := Item.joined level.items.reverse :: level.branches, items := [] }

/-- The choice between the alternatives of a group, with its depth. -/
def Level.pattern (level : Level) : Pattern × Nat :=
  let branches := level.finishBranch.branches.reverse
  let depth := (branches.map Prod.snd).foldl max 0
  (Pattern.choice (branches.map Prod.fst), if branches.length < 2 then depth else depth + 1)

/-- The reading of a pattern between two tokens. -/
structure Reading where
  /-- The flags in force. -/
  flags : Flags
  /-- The number of groups that were opened so far whose texts are kept. -/
  groups : Nat
  /-- The names of groups so far. -/
  names : List String
  /-- The innermost open group. -/
  level : Level
  /-- The open groups around it, innermost first. -/
  outer : List Level

/-- The reading before the first token. -/
def Reading.start : Reading where
  flags := .start
  groups := 0
  names := []
  level := .open none .start
  outer := []

/-- Open a group. -/
def Reading.open (reading : Reading) (index : Option Nat) (flags : Flags) : Reading :=
  { reading with
    flags := flags
    level := .open index reading.flags
    outer := reading.level :: reading.outer }

/-- Open a group whose text is kept.  No two groups have the same name. -/
def Reading.openCapture (reading : Reading) (name : Option String) : Option Reading :=
  if name.any fun name => reading.names.contains name then none
  else
    let index := reading.groups + 1
    some <|
      { reading with groups := index, names := name.toList ++ reading.names }.open
        (some index) reading.flags

/-- Close the innermost group. -/
def Reading.close (reading : Reading) : Option Reading :=
  match reading.outer with
  | [] => none
  | around :: outer =>
      let (inside, depth) := reading.level.pattern
      let pattern :=
        match reading.level.index with
        | some index => .group index inside
        | none => inside
      some
        { reading with
          flags := reading.level.around
          level := around.add (.part pattern (depth + 1))
          outer := outer }

/-- Repeat the last item, which must be there and not be flags. -/
def Reading.repeatLast (reading : Reading) (least : Nat) (most : Option Nat) (greedy : Bool) :
    Option Reading :=
  match reading.level.items with
  | .part pattern depth :: items =>
      let item := Item.part (pattern.times least most greedy) (depth + 1)
      some { reading with level := { reading.level with items := item :: items } }
  | _ => none

/-- Put an item into the innermost group. -/
def Reading.add (reading : Reading) (item : Item) : Reading :=
  { reading with level := reading.level.add item }

/-- Take in one token. -/
def Reading.push (reading : Reading) : Token → Option Reading
  | .one set depth => some (reading.add (.part (.ofSet set) depth))
  | .check assertion => some (reading.add (.part (.check assertion) 0))
  | .bar => some { reading with level := reading.level.finishBranch }
  | .capture name => reading.openCapture name
  | .group changes => some (reading.open none (reading.flags.apply changes))
  | .close => reading.close
  | .flags changes => some { reading.add .flags with flags := reading.flags.apply changes }
  | .repeated least most greedy => reading.repeatLast least most greedy

/-- Take in the tokens of a text.  Every token has at least one character, so a bound beyond the
length of the text is never met. -/
def Reading.run : Nat → Reading → List Char → Option Reading
  | 0, _, _ => none
  | bound + 1, reading, text =>
      match reading.flags.skip text with
      | [] => some reading
      | char :: rest => do
          let (token, rest) ← readToken reading.flags (char :: rest)
          let reading ← reading.push token
          Reading.run bound reading rest

/-- The pattern of a finished reading: no group is open, and it is not too deep or too large. -/
def Reading.finish (reading : Reading) : Option Pattern :=
  match reading.outer with
  | [] =>
      let (pattern, depth) := reading.level.pattern
      if depth ≤ maxDepth && pattern.fits then some pattern else none
  | _ => none

/-- The pattern that a text writes. -/
def Pattern.parse (text : List Char) : Option Pattern := do
  let reading ← Reading.start.run (text.length + 1) text
  reading.finish

end Regex

/-- A regular expression with its text. -/
structure Regex where
  /-- The text it was written as. -/
  text : String
  /-- Its structure. -/
  pattern : Regex.Pattern

namespace Regex

/-- The regular expression of a text, if it is one. -/
def compile (text : String) : Option Regex :=
  (Pattern.parse text.toList).map fun pattern => { text, pattern }

/-- The text of an expression that matches at the start of a text only. -/
def anchoredText (text : String) : String :=
  "^(?:" ++ text ++ ")"

end Regex
end BucketCatalog
