import BucketCatalog.Regex.Parser
import BucketCatalog.Regex.Search
import BucketCatalog.Settings

/-!
# Assets

An asset is a named part of a bucket: the keys under a prefix that match a filter.  `Asset.resolve`
fills in what its settings leave to the catalog and compiles its patterns.  The filter is compiled
twice, once as it is written and once anchored at the start of the key, so that nothing in it can
reach beyond the brackets of the anchored form.
-/

namespace BucketCatalog

/-- A named part of a bucket. -/
structure Asset where
  /-- The name. -/
  name : String
  /-- The text that all keys start with. -/
  keyPrefix : String
  /-- The delimiter to roll up on. -/
  delimiter : String
  /-- The filter, anchored at the start of the key. -/
  filter : Regex
  /-- The pattern that partition ids are taken from. -/
  partitionPattern : Option Regex
  /-- The group of the partition pattern that is the id. -/
  group : UInt64
  /-- What the batches are made of. -/
  kind : AssetKind
  /-- The page size of listings. -/
  maxKeys : UInt32
  /-- The reader method of the batches. -/
  readerMethod : Option String
  /-- The reader options of the batches. -/
  readerOptions : ReaderOptions

namespace Asset

/-- Compile a pattern of an asset. -/
def compile (asset : String) (role : PatternRole) (text : String) : Except SettingsFault Regex :=
  match Regex.compile text with
  | some regex => .ok regex
  | none => .error (.pattern asset role text)

/-- The filter of assets that do not set one; it matches every key. -/
def matchAll : String := ".*"

/-- The asset of settings within the settings of a catalog. -/
def resolve (name : String) (settings : AssetSettings) (catalog : Settings) :
    Except SettingsFault Asset := do
  let delimiter := settings.delimiter.getD catalog.delimiter
  if delimiter.isEmpty then throw (.emptyDelimiter (some name))
  let maxKeys := settings.maxKeys.getD catalog.maxKeys
  checkPageSize (some name) maxKeys
  let filter := settings.filter.getD matchAll
  let _ ← compile name .filter filter
  let anchored ← compile name .filter (Regex.anchoredText filter)
  let partitionPattern ←
    match settings.partitionPattern with
    | none => pure none
    | some text => some <$> compile name .partition text
  return {
    name := name
    keyPrefix := settings.keyPrefix
    delimiter := delimiter
    filter := anchored
    partitionPattern := partitionPattern
    group := settings.group.getD 1
    kind := if settings.directories then .directory else .file
    maxKeys := maxKeys
    readerMethod := settings.readerMethod
    readerOptions := settings.readerOptions }

/-- Whether a key belongs to the asset, its prefix apart. -/
def accepts (asset : Asset) (key : String) : Bool :=
  (asset.filter.pattern.search key.toList).isSome

end Asset

/-- The name of the asset of a catalog that sets none. -/
def Settings.defaultAsset : String := "default"

/-- The assets of a catalog.  They are resolved in byte order of their names up to the first fault.
-/
def Settings.resolveAssets (settings : Settings) : Except SettingsFault (Table Asset) := do
  settings.validate
  if settings.assets.isEmpty then
    let name := Settings.defaultAsset
    let asset ←
      Asset.resolve name { AssetSettings.ofPrefix "" with filter := some Asset.matchAll } settings
    return Table.empty.insert name asset
  else
    settings.assets.traverse fun name asset => Asset.resolve name asset settings

end BucketCatalog
