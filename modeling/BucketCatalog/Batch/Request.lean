import BucketCatalog.Batch.Overrides

/-!
# Requests for batches and partitions

What callers send.  A batch request names an asset and may name a partition; the settings of the
call stand beside those names.  A request for partition ids names its asset under one of two names,
of which one is deprecated.
-/

namespace BucketCatalog

/-- A request for one batch of an asset, or for all of them if it names no partition. -/
structure BatchRequest where
  /-- The asset to read.  A request without one is refused, but can be shown. -/
  asset : Option String
  /-- The partition to read. -/
  partition : Option String
  /-- The settings of the call. -/
  overrides : Overrides

namespace BatchRequest

/-- A request for all batches of an asset. -/
def ofAsset (asset : String) : BatchRequest where
  asset := some asset
  partition := none
  overrides := .none

/-- The two names of a request. -/
def reader : RecordReader (Option String × Option String) :=
  RecordReader.make Prod.mk
    |>.field (.optionalTail "data_asset_name" .str)
    |>.field (.optionalTail "partition_id" .str)

/-- Read a request: the names first, then the settings, both from the members of one object. -/
def ofJson : JsonReader BatchRequest
  | .obj fields => do
      let (asset, partition) ← reader.readFields fields
      let overrides ← Overrides.reader.readFields fields
      return { asset, partition, overrides }
  | other => .error (.invalidType other "struct BatchRequest")

/-- Write a request, without the names that are not given. -/
def toJson (request : BatchRequest) : Json :=
  .object
    ((request.asset.map fun name => ("data_asset_name", Json.str name)).toList
      ++ (request.partition.map fun name => ("partition_id", Json.str name)).toList
      ++ request.overrides.fields)

end BatchRequest

/-- A request for the partition ids of an asset. -/
structure PartitionsRequest where
  /-- The asset. -/
  asset : Option String
  /-- The asset, under the deprecated name of this member. -/
  generator : Option String
  deriving DecidableEq

namespace PartitionsRequest

/-- A request for the partition ids of an asset under its present name. -/
def ofAsset (asset : String) : PartitionsRequest where
  asset := some asset
  generator := none

/-- The members of a request. -/
def reader : RecordReader PartitionsRequest :=
  RecordReader.make PartitionsRequest.mk
    |>.field (.optionalTail "data_asset_name" .str)
    |>.field (.optionalTail "generator_asset" .str)

/-- Read a request. -/
def ofJson : JsonReader PartitionsRequest :=
  reader.read "PartitionIdsRequest"

/-- Write a request, without the names that are not given. -/
def toJson (request : PartitionsRequest) : Json :=
  .object
    ((request.asset.map fun name => ("data_asset_name", Json.str name)).toList
      ++ (request.generator.map fun name => ("generator_asset", Json.str name)).toList)

end PartitionsRequest
end BucketCatalog
