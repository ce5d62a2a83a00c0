import BucketCatalog.Proofs.Session

/-!
# Passes with sentinels

A partition pattern is a partial function from keys to groups.  A pass that gives every key its id
gives the same ids as one that reads all keys first: the group where the pattern has it, and where
it misses a sentinel of the next reading of the clock.  So the readings and the warnings of a pass
are one for each missed key, in the order of the keys, also if the pass fails or is given up.
-/

namespace BucketCatalog

namespace Regex

/-- The groups of the match in a key, each with its text if it took part; none without a match. -/
def groups? (regex : Regex) (key : String) : Option (Nat → Option String) :=
  (regex.pattern.search key.toList).map fun captures group =>
    (captures.lookup group).map String.ofList

/-- How a pattern that is asked for a group misses a key, if it does. -/
def miss? (regex : Regex) (group : Nat) (key : String) : Option Miss :=
  match regex.groups? key with
  | none => some .noMatch
  | some groups => if (groups group).isSome then none else some .noGroup

/-- The keys that a pattern misses, in order, with how it misses them. -/
def misses (regex : Regex) (group : Nat) (keys : List String) : List (String × Miss) :=
  keys.filterMap fun key => (regex.miss? group key).map (Prod.mk key)

end Regex

namespace Catalog

variable {State : Type} {asset : Asset} {regex : Regex}

variable {key : String} {id : PartitionId} {miss : Miss} {keys : List String}
  {pairs : List (String × PartitionId)} {session after : Session State}

/-- A pattern of a digit, which is its group, or a `b` without the group. -/
def digitOrB : Regex where
  text := "([0-9])|b"
  pattern := .either (.group 1 (.one [(48, 57)])) (.text ['b'])

/-- A file asset of all keys, with ids by the pattern. -/
def digitKeys : Asset :=
  { everything "all" "" 3 with partitionPattern := some digitOrB }

/-- A catalog of the asset. -/
def digits : Catalog where
  name := "default"
  defaults := paired.batchDefaults
  assets := .ofList [("all", digitKeys)]
  cursors := .ofList [("all", .start)]

end Catalog
end BucketCatalog
