import BucketCatalog.Regex.Pattern

/-!
# Searching a text for a pattern

The match that is found is the leftmost one, and among those that start there the preferred one:
alternatives are tried in order, and repetitions go on or stop as their greed says.

Trying goes from a choice to its first branch and comes back for the second only if the first leads
nowhere.  Every choice of a pattern has a number, and a choice that was met before at the same place
of the text is not tried again: the first visit either is still under way, which makes this one a
round that takes nothing, or has already failed.  This bounds the search by the number of choices
times the length of the text.
-/

namespace BucketCatalog
namespace Regex

/-- A place in a text. -/
structure Place where
  /-- The number of characters before the place. -/
  index : Nat
  /-- The character before the place. -/
  before : Option Char
  /-- The characters after the place. -/
  rest : List Char

/-- The place before the first character. -/
def Place.start (text : List Char) : Place where
  index := 0
  before := none
  rest := text

/-- The place after characters that the text goes on with. -/
def Place.advance? (place : Place) : List Char → Option Place
  | [] => some place
  | char :: chars =>
      match place.rest with
      | [] => none
      | next :: rest =>
          if char = next then Place.advance? ⟨place.index + 1, some next, rest⟩ chars else none

/-- Whether an optional character is part of a word. -/
def isWord (ascii : Bool) : Option Char → Bool
  | none => false
  | some char => if ascii then CharSet.asciiWord.contains char.toNat else Unicode.isWord char

/-- Whether a condition holds at a place. -/
def Assertion.holds (place : Place) : Assertion → Bool
  | .textStart => place.index = 0
  | .textEnd => place.rest.isEmpty
  | .lineStart => place.before = none || place.before = some '\n'
  | .lineEnd => place.rest.isEmpty || place.rest.head? = some '\n'
  | .lineStartCR =>
      place.before = none || place.before = some '\n'
        || (place.before = some '\r' && place.rest.head? != some '\n')
  | .lineEndCR =>
      place.rest.isEmpty || place.rest.head? = some '\r'
        || (place.rest.head? = some '\n' && place.before != some '\r')
  | .wordEdge ascii => isWord ascii place.before != isWord ascii place.rest.head?
  | .noWordEdge ascii => isWord ascii place.before == isWord ascii place.rest.head?
  | .wordStart ascii => !isWord ascii place.before && isWord ascii place.rest.head?
  | .wordEnd ascii => isWord ascii place.before && !isWord ascii place.rest.head?
  | .wordStartHalf ascii => !isWord ascii place.before
  | .wordEndHalf ascii => !isWord ascii place.rest.head?

/-- The texts of groups, the newest first. -/
abbrev Captures := List (Nat × List Char)

/-- The choices that were met and where, by the bits of numbers below `2 ^ 62`. -/
abbrev Visits := Array Nat

/-- The number of visits that one number tells. -/
def visitsPerNumber : Nat := 62

/-- No visits, with room for some number of them. -/
def Visits.none (count : Nat) : Visits :=
  .replicate (count / visitsPerNumber + 1) 0

/-- Whether a visit was made. -/
def Visits.has (visits : Visits) (visit : Nat) : Bool :=
  (visits.getD (visit / visitsPerNumber) 0).testBit (visit % visitsPerNumber)

/-- Make a visit. -/
def Visits.make (visits : Visits) (visit : Nat) : Visits :=
  visits.modify (visit / visitsPerNumber) fun bits => bits ||| 1 <<< (visit % visitsPerNumber)

/-- Making a visit changes what is told about that visit only. -/
theorem Visits.has_make {visits : Visits} {visit : Nat}
    (inside : visit / visitsPerNumber < visits.size) (other : Nat) :
    Visits.has (Visits.make visits visit) other = (visit == other || Visits.has visits other) := by
  simp only [Visits.has, Visits.make, Array.getD_eq_getD_getElem?, Array.getElem?_modify]
  by_cases same : visit / visitsPerNumber = other / visitsPerNumber
  · have bits : visit % visitsPerNumber = other % visitsPerNumber ↔ visit = other := by
      simp only [visitsPerNumber] at same ⊢
      omega
    rw [same] at inside
    simp [same, inside, Nat.one_shiftLeft, Nat.testBit_two_pow, bits, Bool.or_comm]
    grind
  · have differ : visit ≠ other := fun equal => same (by rw [equal])
    simp [same, differ]

/-- What is left to match: from a place, the groups so far and the visits so far, either the groups
of the whole match or nothing, and the visits then. -/
abbrev Goal := Place → Captures → Visits → Option Captures × Visits

/-- Try one goal, and if it leads nowhere the other. -/
def Goal.orElse (first second : Goal) : Goal := fun place captures visits =>
  match first place captures visits with
  | (some found, visits) => (some found, visits)
  | (none, visits) => second place captures visits

/-- Try a goal at a choice that was not met before at this place; `span` is the number of places. -/
def Goal.once (span choice : Nat) (goal : Goal) : Goal := fun place captures visits =>
  let visit := choice * span + place.index
  if Visits.has visits visit then (none, visits)
  else goal place captures (Visits.make visits visit)

/-- Two goals in the order of preference of a repetition that goes on with the first. -/
def Goal.prefer (greedy : Bool) (more stop : Goal) : Goal :=
  if greedy then more.orElse stop else stop.orElse more

/-- The number of choices in a pattern, those of repeated parts counted once for each copy. -/
def Pattern.choices : Pattern → Nat
  | .empty => 0
  | .text _ => 0
  | .one _ => 0
  | .check _ => 0
  | .both first second => first.choices + second.choices
  | .either first second => 1 + first.choices + second.choices
  | .repeated body least (some most) _ =>
      least * body.choices + (most - least) * (1 + body.choices)
  | .repeated body 0 none _ => 2 + body.choices
  | .repeated body (least + 1) none _ => (least + 1) * body.choices + 1
  | .group _ body => body.choices

/-- A body a number of times, each copy with choices of its own, and then a goal that gets the
number of the first choice after them. -/
def copies (body : Nat → Goal → Goal) (width : Nat) (goal : Nat → Goal) : Nat → Nat → Goal
  | 0, first, place, captures, visits => goal first place captures visits
  | count + 1, first, place, captures, visits =>
      body first (copies body width goal count (first + width)) place captures visits

/-- A body up to a number of times; each copy may be the first that is left out. -/
def upTo (span : Nat) (body : Nat → Goal → Goal) (width : Nat) (greedy : Bool) (goal : Goal) :
    Nat → Nat → Goal
  | 0, _, place, captures, visits => goal place captures visits
  | count + 1, first, place, captures, visits =>
      let more := body (first + 1) (upTo span body width greedy goal count (first + 1 + width))
      Goal.once span first (.prefer greedy more goal) place captures visits

/-- A body any number of times, all rounds sharing their choices.  Each round but the last takes a
character, so the number of places bounds their number. -/
def rounds (span choice : Nat) (body : Goal → Goal) (greedy : Bool) (goal : Goal) : Nat → Goal
  | 0, _, _, visits => (none, visits)
  | bound + 1, place, captures, visits =>
      let more := body (rounds span choice body greedy goal bound)
      Goal.once span choice (.prefer greedy more goal) place captures visits

/-- The goal to match a pattern, whose choices are numbered from `first`, and then reach a goal. -/
def Pattern.run (span : Nat) : Pattern → Nat → Goal → Goal
  | .empty, _, goal, place, captures, visits => goal place captures visits
  | .text chars, _, goal, place, captures, visits =>
      match place.advance? chars with
      | some place => goal place captures visits
      | none => (none, visits)
  | .one set, _, goal, place, captures, visits =>
      match place.rest with
      | [] => (none, visits)
      | char :: rest =>
          if set.contains char.toNat then
            goal ⟨place.index + 1, some char, rest⟩ captures visits
          else (none, visits)
  | .check assertion, _, goal, place, captures, visits =>
      if assertion.holds place then goal place captures visits else (none, visits)
  | .both left right, first, goal, place, captures, visits =>
      left.run span first (right.run span (first + left.choices) goal) place captures visits
  | .either left right, first, goal, place, captures, visits =>
      let preferred := left.run span (first + 1) goal
      let other := right.run span (first + 1 + left.choices) goal
      Goal.once span first (preferred.orElse other) place captures visits
  | .repeated body least (some most) greedy, first, goal, place, captures, visits =>
      let optional := upTo span (body.run span) body.choices greedy goal (most - least)
      copies (body.run span) body.choices optional least first place captures visits
  | .repeated body 0 none greedy, first, goal, place, captures, visits =>
      if body.consumes then
        rounds span first (body.run span (first + 1)) greedy goal span place captures visits
      else
        let round := body.run span (first + 2)
        let more := round (rounds span (first + 1) round greedy goal span)
        Goal.once span first (.prefer greedy more goal) place captures visits
  | .repeated body (least + 1) none greedy, first, goal, place, captures, visits =>
      let last := fun next =>
        let round := body.run span next
        round (rounds span (next + body.choices) round greedy goal span)
      copies (body.run span) body.choices last least first place captures visits
  | .group index body, first, goal, place, captures, visits =>
      let close : Goal := fun last captures visits =>
        goal last ((index, place.rest.take (last.index - place.index)) :: captures) visits
      body.run span first close place captures visits

/-- The goal that is reached everywhere. -/
def Goal.done : Goal := fun _ captures visits => (some captures, visits)

/-- The groups of the preferred match that begins at a place, with the visits then; the whole match
is group 0. -/
def Pattern.matchAt (pattern : Pattern) (span : Nat) (place : Place) (visits : Visits) :
    Option Captures × Visits :=
  (Pattern.group 0 pattern).run span 0 .done place [] visits

/-- The groups of the preferred match that begins leftmost, in a text given from a place on.  What
was met from an earlier beginning leads nowhere from a later one either. -/
def Pattern.searchFrom (pattern : Pattern) (span : Nat) :
    Nat → Option Char → List Char → Visits → Option Captures
  | index, before, [], visits => (pattern.matchAt span ⟨index, before, []⟩ visits).1
  | index, before, char :: rest, visits =>
      match pattern.matchAt span ⟨index, before, char :: rest⟩ visits with
      | (some captures, _) => some captures
      | (none, visits) => pattern.searchFrom span (index + 1) (some char) rest visits

/-- The groups of the match that is found in a text. -/
def Pattern.search (pattern : Pattern) (text : List Char) : Option Captures :=
  let span := text.length + 1
  pattern.searchFrom span 0 none text (Visits.none (pattern.choices * span))

end Regex
end BucketCatalog
