import BucketCatalog.Asset

/-!
# Batch descriptors

A descriptor says where a batch is and how to read it.  Reader options come in three layers, the
catalog's under the asset's under the call's; a layer replaces whole options of the layers below.
-/

namespace BucketCatalog

/-- Where a batch is and how to read it. -/
structure Descriptor where
  /-- The asset the batch belongs to. -/
  asset : String
  /-- The address of the batch. -/
  address : String
  /-- The method to read the batch with. -/
  readerMethod : Option String
  /-- The options to read the batch with. -/
  readerOptions : ReaderOptions
  /-- The most rows to read, if there is a limit. -/
  limit : Option UInt64

namespace Descriptor

/-- The members of a descriptor. -/
def reader : RecordReader Descriptor :=
  RecordReader.make Descriptor.mk
    |>.field (.required "data_asset_name" .str)
    |>.field (.required "s3" .str)
    |>.field (.optional "reader_method" .str)
    |>.field (.required "reader_options" .tree)
    |>.field (.optionalTail "limit" .word64)

/-- Read a descriptor. -/
def ofJson : JsonReader Descriptor :=
  reader.read "BatchDescriptor"

/-- Write a descriptor, with a limit only if there is one. -/
def toJson (descriptor : Descriptor) : Json :=
  .object
    ([("data_asset_name", .str descriptor.asset),
        ("s3", .str descriptor.address),
        ("reader_method", .optionStr descriptor.readerMethod),
        ("reader_options", .ofTable descriptor.readerOptions)]
      ++ (descriptor.limit.map fun limit => ("limit", Json.nat limit.toNat)).toList)

/-- The parts of the address. -/
def locate (descriptor : Descriptor) : Except Fault Locator :=
  match Locator.parse descriptor.address with
  | .ok locator => .ok locator
  | .error fault => .error (.locator descriptor.address fault)

end Descriptor

/-- What a catalog gives to all its batches. -/
structure BatchDefaults where
  /-- The scheme of addresses. -/
  scheme : String
  /-- The bucket of addresses. -/
  bucket : String
  /-- The reader method under those of assets and calls. -/
  readerMethod : Option String
  /-- The reader options under those of assets and calls. -/
  readerOptions : ReaderOptions

/-- What the settings of a catalog give to its batches. -/
def Settings.batchDefaults (settings : Settings) : BatchDefaults where
  scheme := settings.scheme
  bucket := settings.bucket
  readerMethod := settings.readerMethod
  readerOptions := settings.readerOptions

namespace BatchDefaults

/-- The address of a key. -/
def locator (defaults : BatchDefaults) (key : String) : Locator where
  scheme := defaults.scheme
  bucket := defaults.bucket
  key := key

/-- The first of several texts that is there and not empty. -/
def firstNamed (texts : List (Option String)) : Option String :=
  (texts.filterMap id).find? fun text => !text.isEmpty

/-- The descriptor of a key of an asset for a call. -/
def describe (defaults : BatchDefaults) (asset : Asset) (overrides : Overrides) (key : String) :
    Descriptor where
  asset := asset.name
  address := (defaults.locator key).text
  readerMethod :=
    firstNamed [overrides.readerMethod, asset.readerMethod, defaults.readerMethod]
  readerOptions :=
    (defaults.readerOptions.overlay asset.readerOptions).overlay overrides.readerOptions
  limit := overrides.limit.filter fun limit => limit != 0

end BatchDefaults
end BucketCatalog
