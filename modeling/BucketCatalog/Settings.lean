import BucketCatalog.Fault

/-!
# Settings

What a catalog and its assets are set up with.  An asset takes over from the catalog what it does
not set itself.
-/

namespace BucketCatalog

/-- The most keys that stores accept to list in one page. -/
def maxPageSize : UInt32 := 1000

/-- A page size that stores accept. -/
def checkPageSize (asset : Option String) (maxKeys : UInt32) : Except SettingsFault Unit :=
  if maxKeys = 0 ∨ maxPageSize < maxKeys then .error (.pageSize asset maxKeys) else .ok ()

/-- The settings of one asset. -/
structure AssetSettings where
  /-- The text that the asset's keys start with. -/
  keyPrefix : String
  /-- The delimiter to roll up on. -/
  delimiter : Option String
  /-- The pattern that the asset's keys match at their start. -/
  filter : Option String
  /-- The pattern that partition ids are taken from. -/
  partitionPattern : Option String
  /-- The group of the partition pattern that is the id. -/
  group : Option UInt64
  /-- Whether rolled-up prefixes are the batches of the asset, and not objects. -/
  directories : Bool
  /-- The page size of listings. -/
  maxKeys : Option UInt32
  /-- The reader method of the asset's batches. -/
  readerMethod : Option String
  /-- The reader options of the asset's batches. -/
  readerOptions : ReaderOptions

namespace AssetSettings

/-- The settings of an asset that sets nothing but its prefix. -/
def ofPrefix (keyPrefix : String) : AssetSettings where
  keyPrefix := keyPrefix
  delimiter := none
  filter := none
  partitionPattern := none
  group := none
  directories := false
  maxKeys := none
  readerMethod := none
  readerOptions := .empty

instance : Inhabited AssetSettings :=
  ⟨ofPrefix ""⟩

/-- The members of the settings of an asset. -/
def reader : RecordReader AssetSettings :=
  RecordReader.make AssetSettings.mk
    |>.field (.withDefault "prefix" .str "")
    |>.field (.optionalTail "delimiter" .str)
    |>.field (.optionalTail "regex_filter" .str)
    |>.field (.optionalTail "partition_regex" .str)
    |>.field (.optionalTail "match_group_id" .size)
    |>.field (.withDefault "directory_assets" .bool false)
    |>.field (.optionalTail "max_keys" .word32)
    |>.field (.optionalTail "reader_method" .str)
    |>.field (.withDefault "reader_options" .tree .empty)

/-- Read the settings of an asset. -/
def ofJson : JsonReader AssetSettings :=
  reader.read "AssetOptions"

/-- Write the settings of an asset, without those that are taken over from the catalog. -/
def toJson (settings : AssetSettings) : Json :=
  .object
    ([("prefix", .str settings.keyPrefix),
        ("directory_assets", .bool settings.directories),
        ("reader_options", .ofTable settings.readerOptions)]
      ++ (settings.delimiter.map fun text => ("delimiter", Json.str text)).toList
      ++ (settings.filter.map fun text => ("regex_filter", Json.str text)).toList
      ++ (settings.partitionPattern.map fun text => ("partition_regex", Json.str text)).toList
      ++ (settings.group.map fun group => ("match_group_id", Json.nat group.toNat)).toList
      ++ (settings.maxKeys.map fun size => ("max_keys", Json.nat size.toNat)).toList
      ++ (settings.readerMethod.map fun text => ("reader_method", Json.str text)).toList)

end AssetSettings

/-- The settings of a catalog. -/
structure Settings where
  /-- The name of the catalog. -/
  name : String
  /-- The bucket that all assets are in. -/
  bucket : String
  /-- The scheme of the addresses of batches. -/
  scheme : String
  /-- The delimiter to roll up on. -/
  delimiter : String
  /-- The page size of listings. -/
  maxKeys : UInt32
  /-- The reader method of batches. -/
  readerMethod : Option String
  /-- The reader options of batches. -/
  readerOptions : ReaderOptions
  /-- The assets by name; without any there is one that has all keys. -/
  assets : Table AssetSettings

namespace Settings

/-- The settings of a catalog that sets nothing but its bucket. -/
def ofBucket (bucket : String) : Settings where
  name := "default"
  bucket := bucket
  scheme := "s3a"
  delimiter := "/"
  maxKeys := maxPageSize
  readerMethod := none
  readerOptions := .empty
  assets := .empty

/-- The members of the settings of a catalog. -/
def reader : RecordReader Settings :=
  RecordReader.make Settings.mk
    |>.field (.withDefault "name" .str "default")
    |>.field (.required "bucket" .str)
    |>.field (.withDefault "scheme" .str "s3a")
    |>.field (.withDefault "delimiter" .str "/")
    |>.field (.withDefault "max_keys" .word32 maxPageSize)
    |>.field (.optionalTail "reader_method" .str)
    |>.field (.withDefault "reader_options" .tree .empty)
    |>.field (.withDefault "assets" (.table AssetSettings.ofJson) .empty)

/-- Read the settings of a catalog. -/
def ofJson : JsonReader Settings :=
  reader.read "ConnectorConfig"

/-- Write the settings of a catalog. -/
def toJson (settings : Settings) : Json :=
  .object
    [("name", .str settings.name),
      ("bucket", .str settings.bucket),
      ("scheme", .str settings.scheme),
      ("delimiter", .str settings.delimiter),
      ("max_keys", .nat settings.maxKeys.toNat),
      ("reader_method", .optionStr settings.readerMethod),
      ("reader_options", .ofTable settings.readerOptions),
      ("assets", .ofTable (settings.assets.map fun _ asset => asset.toJson))]

/-- Settings of the catalog itself that can be worked with. -/
def validate (settings : Settings) : Except SettingsFault Unit :=
  if settings.bucket.isEmpty then .error .emptyBucket
  else if settings.scheme.isEmpty then .error .emptyScheme
  else if settings.delimiter.isEmpty then .error (.emptyDelimiter none)
  else checkPageSize none settings.maxKeys

end Settings
end BucketCatalog
