import BucketCatalog.Asset

/-!
# Assets that are resolved

What the resolution of an asset checks, as far as it shows in the asset.
-/

namespace BucketCatalog
namespace Asset

/-- What an asset has from its resolution. -/
structure IsResolved (asset : Asset) (name : String) (settings : AssetSettings) : Prop where
  /-- It has the name that it is resolved under. -/
  name_eq : asset.name = name
  /-- It rolls up on something. -/
  delimited : asset.delimiter ≠ ""
  /-- Its pages hold something. -/
  some_keys : asset.maxKeys ≠ 0
  /-- Its pages are not larger than stores accept. -/
  not_more : asset.maxKeys ≤ maxPageSize
  /-- Its filter is a pattern as it is written. -/
  written : ∃ regex, Regex.compile (settings.filter.getD matchAll) = some regex
  /-- It filters by the anchored form of the filter. -/
  anchored : Regex.compile (Regex.anchoredText (settings.filter.getD matchAll)) = some asset.filter

variable {name : String} {settings : AssetSettings} {catalog : Settings} {asset : Asset}

theorem compile_eq_ok {role : PatternRole} {text : String} {regex : Regex}
    (compiled : compile name role text = .ok regex) : Regex.compile text = some regex := by
  rw [compile] at compiled
  split at compiled
  · next found =>
      obtain rfl := Except.ok.inj compiled
      exact found
  · contradiction

theorem bounds_of_checkPageSize {owner : Option String} {size : UInt32}
    (checked : checkPageSize owner size = .ok ()) : size ≠ 0 ∧ size ≤ maxPageSize := by
  by_cases refused : size = 0 ∨ maxPageSize < size
  · simp [checkPageSize, refused] at checked
  · obtain ⟨some_keys, not_more⟩ := not_or.mp refused
    exact ⟨some_keys, UInt32.not_lt.mp not_more⟩

/-- An asset that is resolved has passed every check, and but for its patterns it is what its
settings and those of the catalog say. -/
theorem exists_eq_of_resolve (resolved : resolve name settings catalog = .ok asset) :
    settings.delimiter.getD catalog.delimiter ≠ "" ∧
      checkPageSize (some name) (settings.maxKeys.getD catalog.maxKeys) = .ok () ∧
      ∃ written filter partitionPattern,
        Regex.compile (settings.filter.getD matchAll) = some written ∧
          Regex.compile (Regex.anchoredText (settings.filter.getD matchAll)) = some filter ∧
          asset =
            { name := name
              keyPrefix := settings.keyPrefix
              delimiter := settings.delimiter.getD catalog.delimiter
              filter := filter
              partitionPattern := partitionPattern
              group := settings.group.getD 1
              kind := if settings.directories then .directory else .file
              maxKeys := settings.maxKeys.getD catalog.maxKeys
              readerMethod := settings.readerMethod
              readerOptions := settings.readerOptions } := by
  simp only [resolve, bind, Except.bind, pure, Except.pure] at resolved
  split at resolved
  · contradiction
  rename_i marked
  split at resolved
  · contradiction
  rename_i checked
  split at resolved
  · contradiction
  rename_i written compiled
  split at resolved
  · contradiction
  rename_i filter anchored
  have delimited : settings.delimiter.getD catalog.delimiter ≠ "" := by simpa using marked
  refine ⟨delimited, checked, written, filter, ?_⟩
  split at resolved
  · exact ⟨none, compile_eq_ok compiled, compile_eq_ok anchored, (Except.ok.inj resolved).symm⟩
  · split at resolved
    · contradiction
    · exact ⟨_, compile_eq_ok compiled, compile_eq_ok anchored, (Except.ok.inj resolved).symm⟩

theorem isResolved_of_resolve (resolved : resolve name settings catalog = .ok asset) :
    asset.IsResolved name settings := by
  obtain ⟨delimited, checked, regex, filter, partitionPattern, written, anchored, rfl⟩ :=
    exists_eq_of_resolve resolved
  obtain ⟨some_keys, not_more⟩ := bounds_of_checkPageSize checked
  exact ⟨rfl, delimited, some_keys, not_more, ⟨regex, written⟩, anchored⟩

end Asset

/-- A file asset of all keys under a prefix. -/
def everything (name keyPrefix : String) (maxKeys : UInt32) : Asset where
  name := name
  keyPrefix := keyPrefix
  delimiter := "/"
  filter :=
    { text := Regex.anchoredText Asset.matchAll
      pattern := .both (.check .textStart) (.repeated (.one [(0, 9), (11, 1114111)]) 0 none true) }
  partitionPattern := none
  group := 1
  kind := .file
  maxKeys := maxKeys
  readerMethod := none
  readerOptions := .empty

end BucketCatalog
