import BucketCatalog.Proofs.Catalog
import BucketCatalog.Proofs.Locator

/-!
# Addresses of batches

The address of a batch is made of the scheme and the bucket of the settings and of a key.  Settings
that are valid have a scheme and a bucket, but neither is searched for the marks that end it in an
address.  With such a mark inside, the address of a batch is the address of something else.
-/

namespace BucketCatalog

variable {settings : Settings} {assets : Table Asset} {key : String}

/-- The address of a batch is read back exactly if it can be. -/
theorem BatchDefaults.locate_describe_iff {defaults : BatchDefaults} {asset : Asset}
    {overrides : Overrides} :
    (defaults.describe asset overrides key).locate = .ok (defaults.locator key) ↔
      (defaults.locator key).IsReadable := by
  simp only [describe, Descriptor.locate]
  constructor
  · intro located
    split at located
    · next locator parsed =>
        obtain rfl := Except.ok.inj located
        exact Locator.isReadable_of_parse parsed
    · contradiction
  · intro readable
    rw [Locator.parse_text readable]

namespace Settings

/-- A scheme and a bucket that are there can be read back if neither has the mark that ends it. -/
theorem isReadable_iff (resolved : settings.resolveAssets = .ok assets) (some_key : key ≠ "") :
    (settings.batchDefaults.locator key).IsReadable ↔
      (∀ before after, settings.scheme ≠ before ++ "://" ++ after) ∧
        '/' ∉ settings.bucket.toList := by
  obtain ⟨some_bucket, some_scheme⟩ := named_of_validate (validate_of_resolved resolved)
  constructor
  · intro readable
    exact ⟨readable.unmarked, readable.single⟩
  · rintro ⟨unmarked, single⟩
    exact ⟨some_scheme, unmarked, some_bucket, single, some_key⟩

/-- Under a bucket with a slash, a batch has the address of an object of the bucket of that name up
to the slash. -/
theorem locate_of_slash {first rest : String} (resolved : settings.resolveAssets = .ok assets)
    (unmarked : ∀ before after, settings.scheme ≠ before ++ "://" ++ after)
    (slash : settings.bucket = first ++ "/" ++ rest) (some_first : first ≠ "")
    (single : '/' ∉ first.toList) (asset : Asset) (overrides : Overrides) (key : String) :
    (settings.batchDefaults.describe asset overrides key).locate =
      .ok ⟨settings.scheme, first, rest ++ "/" ++ key⟩ := by
  have some_scheme := (named_of_validate (validate_of_resolved resolved)).2
  have some_rest : rest ++ "/" ++ key ≠ "" := by simp
  have readable : Locator.IsReadable ⟨settings.scheme, first, rest ++ "/" ++ key⟩ :=
    ⟨some_scheme, unmarked, some_first, single, some_rest⟩
  have same_text : (settings.batchDefaults.locator key).text =
      Locator.text ⟨settings.scheme, first, rest ++ "/" ++ key⟩ := by
    simp [Locator.text, batchDefaults, BatchDefaults.locator, slash, String.append_assoc]
  simp only [BatchDefaults.describe, Descriptor.locate, same_text, Locator.parse_text readable]

/--
Over settings that are valid and whose assets resolve, the address of the batch of a key gives back
the scheme and the bucket of the settings and the key exactly if the scheme has no mark of a scheme
and the bucket no slash in it.
-/
theorem address_reads_back_iff (resolved : settings.resolveAssets = .ok assets)
    (some_key : key ≠ "") (asset : Asset) (overrides : Overrides) :
    (settings.batchDefaults.describe asset overrides key).locate =
        .ok ⟨settings.scheme, settings.bucket, key⟩ ↔
      (∀ before after, settings.scheme ≠ before ++ "://" ++ after) ∧
        '/' ∉ settings.bucket.toList := by
  rw [← isReadable_iff resolved some_key]
  exact BatchDefaults.locate_describe_iff

theorem resolveAssets_paired : paired.resolveAssets = .ok pair.assets :=
  (Catalog.isOf_ofSettings ofSettings_paired).resolved

theorem address_reads_back_iff_paired :
    paired.resolveAssets = .ok pair.assets ∧ "d#/://?" ≠ "" ∧
      (paired.batchDefaults.describe (everything "days" "d" 2) .none "d#/://?").locate =
        .ok ⟨"s3a", "b", "d#/://?"⟩ := by
  have unmarked : ∀ before after, paired.scheme ≠ before ++ "://" ++ after :=
    Locator.unmarked_of_colon_not_mem (by decide)
  exact ⟨resolveAssets_paired, by decide,
    (address_reads_back_iff resolveAssets_paired (by decide) _ _).mpr ⟨unmarked, by decide⟩⟩

/-- Settings of a bucket `a/b` are valid, and a batch of the key `k` is addressed at the key `b/k` of
a bucket `a`. -/
theorem address_of_other_bucket :
    (ofBucket "a/b").resolveAssets =
        .ok (Table.empty.insert defaultAsset (everything defaultAsset "" 1000)) ∧
      ((ofBucket "a/b").batchDefaults.describe (everything defaultAsset "" 1000) .none "k").locate =
        .ok ⟨"s3a", "a", "b/k"⟩ := by
  have resolved : (ofBucket "a/b").resolveAssets =
      .ok (Table.empty.insert defaultAsset (everything defaultAsset "" 1000)) := by
    rfl
  have unmarked : ∀ before after, (ofBucket "a/b").scheme ≠ before ++ "://" ++ after :=
    Locator.unmarked_of_colon_not_mem (by decide)
  have slash : (ofBucket "a/b").bucket = "a" ++ "/" ++ "b" := by decide
  exact ⟨resolved, locate_of_slash resolved unmarked slash (by decide) (by decide) _ _ "k"⟩

end Settings
end BucketCatalog
