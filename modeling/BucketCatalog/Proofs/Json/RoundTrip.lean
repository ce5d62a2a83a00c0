import BucketCatalog.Credentials
import BucketCatalog.Proofs.Json.Record

/-!
# Values that are sent and stored

Everything that is written is read back.  Settings, requests and descriptors leave members out when
there is nothing to tell; the value that stands for such a member is then the one that was left out.
-/

namespace BucketCatalog

open JsonReader Member RecordReader

theorem str_ne_null (text : String) : Json.str text ≠ .null := by
  simp

theorem nat_ne_null (value : Nat) : Json.nat value ≠ .null := by
  simp [Json.nat]

theorem roundTrips_optionStr : RoundTrips (JsonReader.option .str) .optionStr :=
  roundTrips_str.option str_ne_null

namespace Overrides

/-- The names of the members. -/
def names : List String :=
  ["reader_method", "reader_options", "limit"]

theorem last?_fields {name : String} (other : name ∉ names) (overrides : Overrides) :
    Entries.last? name overrides.fields = Option.none := by
  simp only [names, List.mem_cons, List.not_mem_nil, or_false, not_or] at other
  obtain ⟨not_method, not_options, not_limit⟩ := other
  by_cases empty : overrides.readerOptions.isEmpty <;>
    simp [fields, empty, Ne.symm not_method, Ne.symm not_options, Ne.symm not_limit]

/-- The settings of a call are read back beside members of other names. -/
theorem readsBack {others : List (String × Json)}
    (apart : ∀ name ∈ names, Entries.last? name others = Option.none) (overrides : Overrides) :
    reader.ReadsBack (others ++ overrides.fields) overrides := by
  obtain ⟨readerMethod, readerOptions, limit⟩ := overrides
  have no_method := apart "reader_method" (by simp [names])
  have no_options := apart "reader_options" (by simp [names])
  have no_limit := apart "limit" (by simp [names])
  refine .field (.field (.field (readsBack_make _ _) ?readerMethod) ?readerOptions) ?limit
  case readerMethod =>
    refine taken_of_given roundTrips_str str_ne_null ?_
    by_cases empty : readerOptions.isEmpty <;> simp [fields, empty, no_method]
  case readerOptions =>
    by_cases empty : readerOptions.isEmpty
    · have same : readerOptions = .empty := Table.ext (List.isEmpty_iff.mp empty)
      exact taken_of_left_out (by rw [same]; rfl) (by simp [fields, empty, no_options])
    · exact taken_of_written roundTrips_tree (by simp [fields, empty])
  case limit =>
    refine taken_of_given roundTrips_word64 (fun _ => nat_ne_null _) ?_
    by_cases empty : readerOptions.isEmpty <;> simp [fields, empty, no_limit]

theorem roundTrips : RoundTrips ofJson toJson := by
  refine .of_reads fun overrides => ReadsBack.read ?_ "BatchOverrides"
  have apart : ∀ name ∈ names, Entries.last? name ([] : List (String × Json)) = Option.none :=
    fun _ _ => rfl
  exact overrides.readsBack apart

end Overrides

namespace BatchRequest

theorem ofJson_obj {members : List (String × Json)} {asset partition : Option String}
    {overrides : Overrides} (names_read : reader.readFields members = .ok (asset, partition))
    (settings_read : Overrides.reader.readFields members = .ok overrides) :
    ofJson (.obj members) = .ok ⟨asset, partition, overrides⟩ := by
  simp only [ofJson, names_read, settings_read]
  rfl

/-- The names of a request and the settings of the call share one object. -/
theorem roundTrips : RoundTrips ofJson toJson := by
  refine .of_reads fun ⟨asset, partition, overrides⟩ => ?_
  let others := (asset.map fun name => ("data_asset_name", Json.str name)).toList ++
    (partition.map fun name => ("partition_id", Json.str name)).toList
  have names_read : reader.ReadsBack (others ++ overrides.fields) (asset, partition) := by
    have no_asset : Entries.last? "data_asset_name" overrides.fields = none :=
      overrides.last?_fields (by decide)
    have no_partition : Entries.last? "partition_id" overrides.fields = none :=
      overrides.last?_fields (by decide)
    refine .field (.field (readsBack_make _ _) ?asset) ?partition
    case asset => exact taken_of_given roundTrips_str str_ne_null (by simp [others, no_asset])
    case partition =>
      exact taken_of_given roundTrips_str str_ne_null (by simp [others, no_partition])
  have apart : ∀ name ∈ Overrides.names, Entries.last? name others = none := by
    simp [Overrides.names, others]
  exact ofJson_obj names_read.readFields (overrides.readsBack apart).readFields

end BatchRequest

theorem PartitionsRequest.roundTrips : RoundTrips ofJson toJson := by
  refine .of_reads fun ⟨asset, generator⟩ => ReadsBack.read ?_ "PartitionIdsRequest"
  refine .field (.field (readsBack_make _ _) ?asset) ?generator
  case asset => exact taken_of_given roundTrips_str str_ne_null (by simp)
  case generator => exact taken_of_given roundTrips_str str_ne_null (by simp)

theorem Descriptor.roundTrips : RoundTrips ofJson toJson := by
  refine .of_reads fun ⟨asset, address, readerMethod, readerOptions, limit⟩ =>
    ReadsBack.read ?_ "BatchDescriptor"
  refine .field (.field (.field (.field (.field (readsBack_make _ _) ?asset) ?address)
    ?readerMethod) ?readerOptions) ?limit
  case asset => exact taken_of_written roundTrips_str (by simp)
  case address => exact taken_of_written roundTrips_str (by simp)
  case readerMethod => exact taken_of_written roundTrips_optionStr (by simp)
  case readerOptions => exact taken_of_written roundTrips_tree (by simp)
  case limit => exact taken_of_given roundTrips_word64 (fun _ => nat_ne_null _) (by simp)

theorem Cursor.roundTrips : RoundTrips ofJson toJson := by
  refine .of_reads fun ⟨token⟩ => ReadsBack.read ?_ "ListingCursor"
  exact .field (readsBack_make _ _) (taken_of_written roundTrips_optionStr (by simp))

theorem PartitionId.roundTrips : RoundTrips ofJson toJson :=
  .of_reads fun _ => rfl

theorem AssetSettings.roundTrips : RoundTrips ofJson toJson := by
  refine .of_reads fun ⟨keyPrefix, delimiter, filter, partitionPattern, group, directories, maxKeys,
    readerMethod, readerOptions⟩ => ReadsBack.read ?_ "AssetOptions"
  refine .field (.field (.field (.field (.field (.field (.field (.field (.field
    (readsBack_make _ _) ?keyPrefix) ?delimiter) ?filter) ?partitionPattern) ?group) ?directories)
    ?maxKeys) ?readerMethod) ?readerOptions
  case keyPrefix => exact taken_of_written roundTrips_str (by simp)
  case delimiter => exact taken_of_given roundTrips_str str_ne_null (by simp)
  case filter => exact taken_of_given roundTrips_str str_ne_null (by simp)
  case partitionPattern => exact taken_of_given roundTrips_str str_ne_null (by simp)
  case group => exact taken_of_given roundTrips_size (fun _ => nat_ne_null _) (by simp)
  case directories => exact taken_of_written roundTrips_bool (by simp)
  case maxKeys => exact taken_of_given roundTrips_word32 (fun _ => nat_ne_null _) (by simp)
  case readerMethod => exact taken_of_given roundTrips_str str_ne_null (by simp)
  case readerOptions => exact taken_of_written roundTrips_tree (by simp)

theorem Settings.roundTrips : RoundTrips ofJson toJson := by
  refine .of_reads fun ⟨name, bucket, scheme, delimiter, maxKeys, readerMethod, readerOptions,
    assets⟩ => ReadsBack.read ?_ "ConnectorConfig"
  refine .field (.field (.field (.field (.field (.field (.field (.field
    (readsBack_make _ _) ?name) ?bucket) ?scheme) ?delimiter) ?maxKeys) ?readerMethod)
    ?readerOptions) ?assets
  case name => exact taken_of_written roundTrips_str (by simp)
  case bucket => exact taken_of_written roundTrips_str (by simp)
  case scheme => exact taken_of_written roundTrips_str (by simp)
  case delimiter => exact taken_of_written roundTrips_str (by simp)
  case maxKeys => exact taken_of_written roundTrips_word32 (by simp)
  case readerMethod => exact taken_of_written roundTrips_optionStr (by simp)
  case readerOptions => exact taken_of_written roundTrips_tree (by simp)
  case assets => exact taken_of_written AssetSettings.roundTrips.table (by simp)

theorem Credentials.roundTrips : RoundTrips ofJson toJson := by
  refine .of_reads fun ⟨bucket, region, endpoint, accessKeyId, secretAccessKey, sessionToken⟩ =>
    ReadsBack.read ?_ "S3Credentials"
  refine .field (.field (.field (.field (.field (.field (readsBack_make _ _) ?bucket) ?region)
    ?endpoint) ?accessKeyId) ?secretAccessKey) ?sessionToken
  case bucket => exact taken_of_written roundTrips_str (by simp)
  case region => exact taken_of_written roundTrips_str (by simp)
  all_goals exact taken_of_written roundTrips_optionStr (by simp)

namespace Listing

theorem Request.roundTrips : RoundTrips ofJson toJson := by
  refine .of_reads fun ⟨bucket, keyPrefix, delimiter, maxKeys, token⟩ =>
    ReadsBack.read ?_ "ListRequest"
  refine .field (.field (.field (.field (.field (readsBack_make _ _) ?bucket) ?keyPrefix)
    ?delimiter) ?maxKeys) ?token
  case bucket => exact taken_of_written roundTrips_str (by simp)
  case keyPrefix => exact taken_of_written roundTrips_str (by simp)
  case delimiter => exact taken_of_written roundTrips_str (by simp)
  case maxKeys => exact taken_of_written roundTrips_word32 (by simp)
  case token => exact taken_of_written roundTrips_optionStr (by simp)

theorem Listed.roundTrips : RoundTrips ofJson toJson := by
  refine .of_reads fun ⟨key, size⟩ => ReadsBack.read ?_ "ListedObject"
  refine .field (.field (readsBack_make _ _) ?key) ?size
  case key => exact taken_of_written roundTrips_str (by simp)
  case size => exact taken_of_written roundTrips_word64 (by simp)

theorem Page.roundTrips : RoundTrips ofJson toJson := by
  refine .of_reads fun ⟨contents, commonPrefixes, isTruncated, nextToken⟩ =>
    ReadsBack.read ?_ "ListPage"
  refine .field (.field (.field (.field (readsBack_make _ _) ?contents) ?commonPrefixes)
    ?isTruncated) ?nextToken
  case contents =>
    exact taken_of_written (Listed.roundTrips.list.option fun _ => by simp [Json.list]) (by simp)
  case commonPrefixes =>
    exact taken_of_written (roundTrips_str.list.option fun _ => by simp [Json.list]) (by simp)
  case isTruncated => exact taken_of_written roundTrips_bool (by simp)
  case nextToken => exact taken_of_written roundTrips_optionStr (by simp)

end Listing

/--
Whatever the settings, requests, descriptors, positions, ids, pages and credentials are, they are
read back from what is written for them, and a value that was read from any JSON is read again from
what is written for it.
-/
theorem values_round_trip :
    RoundTrips Settings.ofJson Settings.toJson ∧
      RoundTrips AssetSettings.ofJson AssetSettings.toJson ∧
      RoundTrips Overrides.ofJson Overrides.toJson ∧
      RoundTrips BatchRequest.ofJson BatchRequest.toJson ∧
      RoundTrips PartitionsRequest.ofJson PartitionsRequest.toJson ∧
      RoundTrips Descriptor.ofJson Descriptor.toJson ∧
      RoundTrips Cursor.ofJson Cursor.toJson ∧
      RoundTrips PartitionId.ofJson PartitionId.toJson ∧
      RoundTrips Listing.Request.ofJson Listing.Request.toJson ∧
      RoundTrips Listing.Listed.ofJson Listing.Listed.toJson ∧
      RoundTrips Listing.Page.ofJson Listing.Page.toJson ∧
      RoundTrips Credentials.ofJson Credentials.toJson :=
  ⟨Settings.roundTrips, AssetSettings.roundTrips, Overrides.roundTrips, BatchRequest.roundTrips,
    PartitionsRequest.roundTrips, Descriptor.roundTrips, Cursor.roundTrips, PartitionId.roundTrips,
    Listing.Request.roundTrips, Listing.Listed.roundTrips, Listing.Page.roundTrips,
    Credentials.roundTrips⟩

end BucketCatalog
