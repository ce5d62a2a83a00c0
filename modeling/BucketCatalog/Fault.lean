import BucketCatalog.Batch.Request
import BucketCatalog.Locator
import BucketCatalog.StoreFailure

/-!
# Faults of a catalog

Everything a catalog can answer instead of a result.  A fault names its cause; its words are made in
one place, `Fault.message`.
-/

namespace BucketCatalog

/-- What the batches of an asset are made of. -/
inductive AssetKind where
  /-- Every object is one batch. -/
  | file
  /-- Every rolled-up prefix is one batch. -/
  | directory
  deriving DecidableEq

namespace AssetKind

/-- The name of a kind. -/
def name : AssetKind → String
  | .file => "file"
  | .directory => "directory"

/-- The kind of a name. -/
def ofName? : String → Except ShapeError AssetKind
  | "file" => .ok .file
  | "directory" => .ok .directory
  | name => .error (.unknownVariant name "file" "directory")

/-- Read a kind: its name, or an object that holds nothing under its name. -/
def ofJson : JsonReader AssetKind
  | .str name => ofName? name
  | .obj [(name, value)] => do
      let kind ← ofName? name
      match value with
      | .null => return kind
      | other => .error (.invalidType other "unit")
  | .obj _ => .error .notOneVariant
  | other => .error (.invalidType other "string or map")

/-- Write a kind. -/
def toJson (kind : AssetKind) : Json :=
  .str kind.name

end AssetKind

/-- The two patterns of an asset. -/
inductive PatternRole where
  /-- The pattern that keys of the asset match. -/
  | filter
  /-- The pattern that partition ids are taken from. -/
  | partition
  deriving DecidableEq

/-- The name of a pattern's setting. -/
def PatternRole.name : PatternRole → String
  | .filter => "regex_filter"
  | .partition => "partition_regex"

/-- What is wrong with the settings of a catalog or of one of its assets. -/
inductive SettingsFault where
  /-- The catalog has no bucket. -/
  | emptyBucket
  /-- The catalog has no scheme. -/
  | emptyScheme
  /-- The catalog, or the named asset, has no delimiter. -/
  | emptyDelimiter (asset : Option String)
  /-- The page size of the catalog, or of the named asset, is not one that stores accept. -/
  | pageSize (asset : Option String) (maxKeys : UInt32)
  /-- A pattern is not a regular expression. -/
  | pattern (asset : String) (role : PatternRole) (text : String)
  /-- The credentials are for another bucket than the one of the catalog. -/
  | otherBucket (credentials settings : String)
  /-- A reason in words. -/
  | stated (reason : String)
  deriving DecidableEq

/-- The words for a fault of the settings. -/
def SettingsFault.reason : SettingsFault → String
  | .emptyBucket => "bucket must not be empty"
  | .emptyScheme => "scheme must not be empty"
  | .emptyDelimiter none => "delimiter must not be empty"
  | .emptyDelimiter (some asset) => "asset '" ++ asset ++ "' delimiter must not be empty"
  | .pageSize asset maxKeys =>
      let scope :=
        match asset with
        | none => "connector"
        | some asset => "asset '" ++ asset ++ "'"
      scope ++ " max_keys " ++ toString maxKeys.toNat ++ " is invalid, must be between 1 and 1000"
  | .pattern asset role text =>
      "asset '" ++ asset ++ "' " ++ role.name ++ " '" ++ text ++ "' does not compile"
  | .otherBucket credentials settings =>
      "credentials are for bucket '" ++ credentials ++ "' but the connector reads '" ++ settings
        ++ "'"
  | .stated reason => reason

/-- What is wrong with a page of a listing, for the kind of asset it is read for. -/
inductive PageFault where
  /-- A directory asset got no rolled-up prefixes. -/
  | noCommonPrefixes
  /-- A file asset got no objects. -/
  | noContents
  /-- There is more, but nothing to ask for it with. -/
  | noToken
  /-- A reason in words. -/
  | stated (reason : String)
  deriving DecidableEq

/-- The words for a fault of a page. -/
def PageFault.reason : PageFault → String
  | .noCommonPrefixes => "directory assets require common prefixes in the listing"
  | .noContents => "file assets require contents in the listing"
  | .noToken => "truncated listing without a continuation token"
  | .stated reason => reason

/-- What is wrong with a request. -/
inductive RequestFault where
  /-- The request names no asset, or names it twice. -/
  | notOneName
  /-- A reason in words. -/
  | stated (reason : String)
  deriving DecidableEq

/-- The words for a fault of a request. -/
def RequestFault.reason : RequestFault → String
  | .notOneName => "provide either generator_asset or data_asset_name"
  | .stated reason => reason

/-- What a catalog answers instead of a result. -/
inductive Fault where
  /-- The catalog has no asset of the requested name. -/
  | unknownAsset (request : BatchRequest)
  /-- The request names no asset. -/
  | noAssetName (request : BatchRequest)
  /-- A page does not hold what the asset needs; `others` are the keys that it holds instead. -/
  | page (asset : String) (kind : AssetKind) (fault : PageFault) (others : Option (List String))
  /-- No key belongs to the partition. -/
  | noPartition (asset partition : String)
  /-- Several keys belong to the partition. -/
  | ambiguousPartition (asset partition : String) (keys : List String)
  /-- No client could be built for the store. -/
  | noClient (failure : StoreFailure)
  /-- The settings are not valid. -/
  | settings (fault : SettingsFault)
  /-- The request is not valid. -/
  | request (fault : RequestFault)
  /-- A text is not the address of an object. -/
  | locator (text : String) (fault : LocatorFault)
  /-- The store failed. -/
  | store (failure : StoreFailure)

namespace Fault

/-- The name of the asset that a request asks for, empty if there is none. -/
def assetName (asked : BatchRequest) : String :=
  asked.asset.getD ""

/-- The text shown for a fault. -/
def message : Fault → String
  | .unknownAsset asked => "unknown asset '" ++ assetName asked ++ "'"
  | .noAssetName _ => "unable to build batch: no asset name provided"
  | .page asset _ fault _ =>
      "listing for asset '" ++ asset ++ "' has an unexpected shape: " ++ fault.reason
  | .noPartition asset partition =>
      "unable to identify partition '" ++ partition ++ "' for asset '" ++ asset ++ "'"
  | .ambiguousPartition asset partition keys =>
      "partition '" ++ partition ++ "' of asset '" ++ asset ++ "' is ambiguous: "
        ++ toString keys.length ++ " keys match"
  | .noClient failure => "object store client unavailable: " ++ failure.message
  | .settings fault => "invalid configuration: " ++ fault.reason
  | .request fault => "invalid request: " ++ fault.reason
  | .locator text fault => "invalid object uri '" ++ text ++ "': " ++ fault.reason
  | .store failure => failure.message

/-- Whether the same call may succeed later: only a store says so. -/
def isRetryable : Fault → Bool
  | .store failure => failure.retryable
  | _ => false

end Fault

/-- What is told beside a result. -/
inductive Warning where
  /-- The partition pattern does not match a key. -/
  | noMatch (asset key : String)
  /-- The partition pattern matches a key without the group that ids are taken from. -/
  | noGroup (asset key : String) (group : UInt64)
  /-- A request uses the deprecated name of the asset. -/
  | deprecatedName (asset : String)
  deriving DecidableEq

/-- The text shown for a warning. -/
def Warning.message : Warning → String
  | .noMatch _ _ => "No match found for key"
  | .noGroup _ _ _ => "No match group in key"
  | .deprecatedName _ =>
      "The 'generator_asset' argument is deprecated and renamed to 'data_asset_name'"

/-- The asset that a request for partition ids means, under either name but not under both. -/
def PartitionsRequest.assetName (request : PartitionsRequest) :
    Except Fault String × List Warning :=
  match request.asset, request.generator with
  | some name, none => (.ok name, [])
  | none, some name => (.ok name, [.deprecatedName name])
  | _, _ => (.error (.request .notOneName), [])

end BucketCatalog
