import BucketCatalog.Regex.CharSet

/-!
# Patterns

The structure of a regular expression.  Alternatives and repetitions carry a preference: the first
alternative before the second, more rounds before fewer if the repetition is greedy.  `sequence`,
`choice` and `times` build patterns in a simple form.
-/

namespace BucketCatalog
namespace Regex

/-- A condition on a place between two characters. -/
inductive Assertion where
  /-- The beginning of the text. -/
  | textStart
  /-- The end of the text. -/
  | textEnd
  /-- The beginning of a line. -/
  | lineStart
  /-- The end of a line. -/
  | lineEnd
  /-- The beginning of a line that a carriage return may end. -/
  | lineStartCR
  /-- The end of a line that a carriage return may end. -/
  | lineEndCR
  /-- A word character on exactly one side. -/
  | wordEdge (ascii : Bool)
  /-- Word characters on both sides or on none. -/
  | noWordEdge (ascii : Bool)
  /-- A word character after the place and none before it. -/
  | wordStart (ascii : Bool)
  /-- A word character before the place and none after it. -/
  | wordEnd (ascii : Bool)
  /-- No word character before the place. -/
  | wordStartHalf (ascii : Bool)
  /-- No word character after the place. -/
  | wordEndHalf (ascii : Bool)
  deriving DecidableEq

/-- A regular expression. -/
inductive Pattern where
  /-- Nothing. -/
  | empty
  /-- Characters one after another. -/
  | text (chars : List Char)
  /-- One character of a set. -/
  | one (set : CharSet)
  /-- A place where a condition holds. -/
  | check (assertion : Assertion)
  /-- One pattern after another. -/
  | both (first second : Pattern)
  /-- One of two patterns. -/
  | either (first second : Pattern)
  /-- A pattern a number of times in a row. -/
  | repeated (body : Pattern) (least : Nat) (most : Option Nat) (greedy : Bool)
  /-- A pattern whose text is kept under a number. -/
  | group (index : Nat) (body : Pattern)
  deriving DecidableEq

namespace Pattern

/-- Whether every match takes at least one character. -/
def consumes : Pattern → Bool
  | .empty => false
  | .text chars => !chars.isEmpty
  | .one _ => true
  | .check _ => false
  | .both first second => first.consumes || second.consumes
  | .either first second => first.consumes && second.consumes
  | .repeated body least _ _ => least != 0 && body.consumes
  | .group _ body => body.consumes

/-- Whether no match takes a character. -/
def takesNothing : Pattern → Bool
  | .empty => true
  | .text chars => chars.isEmpty
  | .one _ => false
  | .check _ => true
  | .both first second => first.takesNothing && second.takesNothing
  | .either first second => first.takesNothing && second.takesNothing
  | .repeated body _ most _ => most == some 0 || body.takesNothing
  | .group _ body => body.takesNothing

/-- The pattern of a set; that of a single character is a text. -/
def ofSet (set : CharSet) : Pattern :=
  match set.char? with
  | some char => .text [char]
  | none => .one set

/-- A repetition.  A body that takes no characters is not repeated more than once. -/
def times (body : Pattern) (least : Nat) (most : Option Nat) (greedy : Bool) : Pattern :=
  let (least, most) :=
    if body.takesNothing then (min least 1, some (min (most.getD 1) 1)) else (least, most)
  if most = some 0 then .empty
  else if least = 1 ∧ most = some 1 then body
  else .repeated body least most greedy

/-! ## Sequences

The parts of a sequence are no sequences themselves, no part is empty, and no text follows a text.
-/

/-- The patterns that a pattern puts one after another. -/
def parts : Pattern → List Pattern
  | .empty => []
  | .both first second => first.parts ++ second.parts
  | pattern => [pattern]

/-- A pattern before others; texts that meet become one text. -/
def prepend : Pattern → List Pattern → List Pattern
  | .text first, .text second :: rest => .text (first ++ second) :: rest
  | pattern, rest => pattern :: rest

/-- Parts one after another. -/
def chain : List Pattern → Pattern
  | [] => .empty
  | [pattern] => pattern
  | pattern :: next :: rest => .both pattern (chain (next :: rest))

/-- Patterns one after another. -/
def sequence (patterns : List Pattern) : Pattern :=
  chain ((patterns.flatMap parts).foldr prepend [])

/-! ## Choices

The branches of a choice are no choices themselves.  A choice between characters is a set, and what
all branches begin with stands before the choice.  The second rule shows in what is found: a
repetition before the choice settles its rounds before a branch is chosen.
-/

/-- The patterns that a pattern chooses from, earlier ones first. -/
def branches : Pattern → List Pattern
  | .either first second => first.branches ++ second.branches
  | pattern => [pattern]

/-- Branches to choose from, earlier ones first. -/
def options : List Pattern → Pattern
  | [] => .one []
  | [pattern] => pattern
  | pattern :: next :: rest => .either pattern (options (next :: rest))

/-- The character of a text of one character. -/
def char? : Pattern → Option Char
  | .text [char] => some char
  | _ => none

/-- The set of a pattern for one character. -/
def set? : Pattern → Option CharSet
  | .one set => some set
  | _ => none

/-- The set of branches that are all single characters or all sets. -/
def union? (branches : List Pattern) : Option CharSet :=
  match branches.mapM char? with
  | some chars => some (.unions (chars.map CharSet.single))
  | none => (branches.mapM set?).map .unions

/-- A choice between patterns, earlier ones first. -/
def alternatives (patterns : List Pattern) : Pattern :=
  let branches := patterns.flatMap branches
  match union? branches with
  | some set => .ofSet set
  | none => options branches

/-- What two lists of parts both begin with. -/
def commonParts : List Pattern → List Pattern → List Pattern
  | first :: left, second :: right => if first = second then first :: commonParts left right else []
  | _, _ => []

/-- The parts that all branches begin with, if there are several and each has several parts. -/
def sharedParts : List Pattern → List Pattern
  | [] => []
  | [_] => []
  | first :: rest =>
      if (first :: rest).all fun branch => 1 < branch.parts.length then
        rest.foldl (fun shared branch => commonParts shared branch.parts) first.parts
      else []

/-- A choice between patterns, earlier ones first, after the parts that all of them begin with. -/
def choice (patterns : List Pattern) : Pattern :=
  let branches := patterns.flatMap branches
  let shared := sharedParts branches
  if shared.isEmpty then alternatives branches
  else
    let rests := branches.map fun branch => sequence (branch.parts.drop shared.length)
    sequence (shared ++ [alternatives rests])

end Pattern
end Regex
end BucketCatalog
