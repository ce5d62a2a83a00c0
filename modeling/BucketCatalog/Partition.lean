import BucketCatalog.Asset
import BucketCatalog.Instant

/-!
# Partitions

Every key of an asset belongs to a partition.  Without a partition pattern the id is what the key
has after the prefix; with one it is the text of a group.  A key that the pattern misses gets a
sentinel: an id made of the time at which it was asked for and of the kind of miss.
-/

namespace BucketCatalog

/-- The name of a partition within an asset. -/
structure PartitionId where
  /-- The text of the id. -/
  text : String
  deriving DecidableEq

/-- The two ways in which a partition pattern misses a key. -/
inductive Miss where
  /-- The pattern does not match. -/
  | noMatch
  /-- The pattern matches, but the group is not part of the match. -/
  | noGroup
  deriving DecidableEq

/-- The end of the sentinels for a kind of miss. -/
def Miss.suffix : Miss → String
  | .noMatch => "__unmatched"
  | .noGroup => "__no_match_group"

namespace PartitionId

/-- The sentinel of a miss at an instant. -/
def sentinel (instant : Instant) (miss : Miss) : PartitionId where
  text := instant.stamp ++ miss.suffix

/-- Whether an id ends like a sentinel. -/
def isSentinel (id : PartitionId) : Bool :=
  Text.endsWith Miss.noMatch.suffix id.text || Text.endsWith Miss.noGroup.suffix id.text

/-- Read an id. -/
def ofJson : JsonReader PartitionId := fun json =>
  (JsonReader.str json).map PartitionId.mk

/-- Write an id. -/
def toJson (id : PartitionId) : Json :=
  .str id.text

end PartitionId

namespace Asset

/-- The id that a key holds, or how the partition pattern misses the key. -/
def readId (asset : Asset) (key : String) : Except Miss PartitionId :=
  match asset.partitionPattern with
  | none => .ok ⟨(Text.withoutLead? asset.keyPrefix key).getD key⟩
  | some regex =>
      match regex.pattern.search key.toList with
      | none => .error .noMatch
      | some captures =>
          match captures.lookup asset.group.toNat with
          | none => .error .noGroup
          | some text => .ok ⟨String.ofList text⟩

/-- The warning about a miss. -/
def warning (asset : Asset) (key : String) : Miss → Warning
  | .noMatch => .noMatch asset.name key
  | .noGroup => .noGroup asset.name key asset.group

/-- The id of a key.  Only a miss reads the clock, and every miss gives a warning. -/
def identify (asset : Asset) (key : String) (clock : Clock) :
    PartitionId × Option Warning × Clock :=
  match asset.readId key with
  | .ok id => (id, none, clock)
  | .error miss =>
      let (now, clock) := clock.read
      (.sentinel now miss, some (asset.warning key miss), clock)

end Asset
end BucketCatalog
