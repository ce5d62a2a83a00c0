import BucketCatalog.Proofs.Bucket
import BucketCatalog.Proofs.Catalog.Addresses
import BucketCatalog.Proofs.Walk.Page

/-!
# Fetching what was listed

A batch of a file asset is the address of a stored object.  The address gives back the path that was
listed, but a retrieval makes its key into a path once more, so that it finds the object that was
listed exactly if the path is its own path.  For any other path it finds what is stored at the path
of the path: another object, or none.
-/

namespace BucketCatalog

open Listing

/-- An object as a bucket without errors hands it out. -/
def Stored.retrieved (object : Stored) (path : String) : Retrieved where
  contentType := object.contentType
  contentEncoding := object.contentEncoding
  location := path
  size := object.size
  chunks := [object.body]
  failure := none

namespace Bucket

variable {bucket : Bucket} {asset : Asset} {key : String}

/-- A bucket that is not written to answers by the request alone. -/
theorem isSteady_remote (bucket : Bucket) : Bucket.remote.IsSteady fun state => state = bucket where
  list := by
    rintro request first second rfl rfl
    rfl
  listed := fun _ _ same => same
  retrieve := by
    rintro name key first second rfl rfl
    rfl
  retrieved := fun _ _ _ same => same

/-- What a file asset keeps of a page are stored objects that are not empty. -/
theorem stored_of_survivor {token : Option String} {page : Page}
    (undisturbed : bucket.disturbance.listing = none) (kind : asset.kind = .file)
    (answered : bucket.list (asset.request bucket.name token) = .ok page)
    (survives : key ∈ asset.survivors page) :
    ∃ stored, (key, stored) ∈ bucket.objects.entries ∧ stored.size ≠ 0 ∧ key ≠ "" := by
  have own : (asset.request bucket.name token).bucket = bucket.name := rfl
  obtain rfl := Except.ok.inj ((list_eq own undisturbed).symm.trans answered)
  rw [Asset.survivors_ofEntries, Asset.keysOf, List.mem_map] at survives
  obtain ⟨⟨name, entry⟩, kept, rfl⟩ := survives
  obtain ⟨on_page, wanted⟩ := List.mem_filter.mp kept
  obtain ⟨⟨object, fed, represents⟩, -⟩ := mem_remaining.mp (List.mem_of_mem_take on_page)
  obtain ⟨member, below, -⟩ := (mem_feed_iff undisturbed).mp fed
  cases represents with
  | folder before after marked under first => simp [Asset.isOfKind, kind] at wanted
  | object rest under flat =>
      obtain ⟨⟨path, stored⟩, stored_member, rfl⟩ := List.mem_map.mp member
      refine ⟨stored, stored_member, ?_, StoredPath.ne_empty_of_isBelow below⟩
      rintro empty
      simp [empty] at wanted

theorem retrieve_of_found {object : Stored} (undisturbed : bucket.disturbance = .none)
    (found : bucket.objects.get? (StoredPath.ofKey key) = some object) :
    bucket.retrieve bucket.name key = .ok (object.retrieved (StoredPath.ofKey key)) := by
  simp [retrieve, undisturbed, Disturbance.none, found, Stored.retrieved]

theorem retrieve_of_absent (undisturbed : bucket.disturbance = .none)
    (absent : bucket.objects.get? (StoredPath.ofKey key) = none) :
    bucket.retrieve bucket.name key =
      .error (StorageError.notFound (StoredPath.ofKey key)
        ("No data in memory found. Location: " ++ StoredPath.ofKey key)).failure := by
  simp [retrieve, undisturbed, Disturbance.none, absent]

end Bucket

namespace Catalog

/-- A catalog whose addresses can be read back, over its bucket without errors. -/
structure Reads (catalog : Catalog) (settings : Settings) (bucket : Bucket) : Prop where
  /-- The catalog is one of the settings. -/
  of : catalog.IsOf settings
  /-- The settings name the bucket. -/
  own : settings.bucket = bucket.name
  /-- The name of the bucket has no slash. -/
  single : '/' ∉ settings.bucket.toList
  /-- The scheme has no mark of its own. -/
  unmarked : ∀ before after, settings.scheme ≠ before ++ "://" ++ after
  /-- The bucket meets no errors. -/
  undisturbed : bucket.disturbance = .none

variable {catalog : Catalog} {settings : Settings} {bucket : Bucket} {name key : String}
  {asset : Asset}

theorem Reads.isReadable (reads : catalog.Reads settings bucket) (nonempty : key ≠ "") :
    (catalog.defaults.locator key).IsReadable := by
  rw [reads.of.defaults, Settings.isReadable_iff reads.of.resolved nonempty]
  exact ⟨reads.unmarked, reads.single⟩

theorem Reads.bucket_eq (reads : catalog.Reads settings bucket) : catalog.bucket = bucket.name := by
  rw [Catalog.bucket, reads.of.defaults, ← reads.own]
  rfl

theorem Reads.stored_of_keyWalk (reads : catalog.Reads settings bucket) (kind : asset.kind = .file)
    (calls : Nat) (wanted : Option Nat) (cursor : Cursor) :
    ∀ key ∈ (catalog.keyWalk Bucket.remote bucket calls asset wanted cursor).items,
      ∃ stored, (key, stored) ∈ bucket.objects.entries ∧ stored.size ≠ 0 ∧ key ≠ "" := by
  have undisturbed : bucket.disturbance.listing = none := by
    simp [reads.undisturbed, Disturbance.none]
  rw [keyWalk, reads.bucket_eq]
  apply Walk.forall_mem_run
  intro token _ page answered name survives
  exact Bucket.stored_of_survivor undisturbed kind answered survives

/-- The object of a batch is what the bucket retrieves for the key of the batch. -/
theorem Reads.fetch_eq (reads : catalog.Reads settings bucket) (nonempty : key ≠ "")
    (overrides : Overrides) {session : Session Bucket} (here : session.store = bucket) :
    (Bucket.remote.session.fetch (catalog.defaults.describe asset overrides key) session).1 =
      ((bucket.retrieve bucket.name key).mapError Fault.store).map
        (Prod.mk (catalog.defaults.locator key)) := by
  have located : (catalog.defaults.describe asset overrides key).locate =
      .ok (catalog.defaults.locator key) :=
    BatchDefaults.locate_describe_iff.mpr (reads.isReadable nonempty)
  have own : (catalog.defaults.locator key).bucket = bucket.name := reads.bucket_eq
  have same_key : (catalog.defaults.locator key).key = key := rfl
  simp only [Remote.fetch, located, Remote.session, Bucket.remote, here, own, same_key]
  cases bucket.retrieve bucket.name key with
  | error failure => rfl
  | ok object => rfl

theorem Reads.fetch_of_found (reads : catalog.Reads settings bucket) (nonempty : key ≠ "")
    (overrides : Overrides) {object : Stored}
    (found : bucket.objects.get? (StoredPath.ofKey key) = some object) {session : Session Bucket}
    (here : session.store = bucket) :
    (Bucket.remote.session.fetch (catalog.defaults.describe asset overrides key) session).1 =
      .ok (catalog.defaults.locator key, object.retrieved (StoredPath.ofKey key)) := by
  rw [reads.fetch_eq nonempty overrides here, Bucket.retrieve_of_found reads.undisturbed found]
  rfl

theorem Reads.fetch_of_absent (reads : catalog.Reads settings bucket) (nonempty : key ≠ "")
    (overrides : Overrides) (absent : bucket.objects.get? (StoredPath.ofKey key) = none)
    {session : Session Bucket} (here : session.store = bucket) :
    (Bucket.remote.session.fetch (catalog.defaults.describe asset overrides key) session).1 =
      .error (.store (StorageError.notFound (StoredPath.ofKey key)
        ("No data in memory found. Location: " ++ StoredPath.ofKey key)).failure) := by
  rw [reads.fetch_eq nonempty overrides here, Bucket.retrieve_of_absent reads.undisturbed absent]
  rfl

/-- What a batch of a stored object is opened as. -/
structure Opens (catalog : Catalog) (bucket : Bucket) (key : String) (stored : Stored)
    (opened : Except Fault Fetched) : Prop where
  /-- It is the object that was listed exactly if its path is its own path. -/
  listed_iff : opened = .ok (catalog.defaults.locator key, stored.retrieved key) ↔
    StoredPath.IsStable key
  /-- What is stored at the path of the path is handed out in its place. -/
  found : ∀ object, bucket.objects.get? (StoredPath.ofKey key) = some object →
    opened = .ok (catalog.defaults.locator key, object.retrieved (StoredPath.ofKey key))
  /-- If nothing is, nothing is found. -/
  absent : bucket.objects.get? (StoredPath.ofKey key) = none →
    opened = .error (.store (StorageError.notFound (StoredPath.ofKey key)
      ("No data in memory found. Location: " ++ StoredPath.ofKey key)).failure)

theorem Reads.opens (reads : catalog.Reads settings bucket) (nonempty : key ≠ "")
    (overrides : Overrides) {stored : Stored} (member : (key, stored) ∈ bucket.objects.entries)
    {session : Session Bucket} (here : session.store = bucket) :
    catalog.Opens bucket key stored
      (Bucket.remote.session.fetch (catalog.defaults.describe asset overrides key) session).1 where
  found := fun object found => reads.fetch_of_found nonempty overrides found here
  absent := fun absent => reads.fetch_of_absent nonempty overrides absent here
  listed_iff := by
    cases found : bucket.objects.get? (StoredPath.ofKey key) with
    | none =>
        rw [reads.fetch_of_absent nonempty overrides found here]
        refine iff_of_false (by simp) fun stable => ?_
        have same : StoredPath.ofKey key = key := stable
        rw [same, Table.mem_entries_iff.mp member] at found
        contradiction
    | some object =>
        rw [reads.fetch_of_found nonempty overrides found here]
        constructor
        · intro listed
          exact congrArg (fun fetched => fetched.2.location) (Except.ok.inj listed)
        · intro stable
          have same : StoredPath.ofKey key = key := stable
          rw [same, Table.mem_entries_iff.mp member] at found
          rw [same, Option.some.inj found]

/--
Every batch that is handed out of a file asset, whole or in part and from wherever its cursor is,
is the address of a stored object that is not empty.  Opened at any time while the bucket is as it
was, it gives that object, under the path that was listed, exactly if the path is its own path.
-/
theorem batch_opens_iff_stable (reads : catalog.Reads settings bucket)
    (found : catalog.assets.get? name = some asset) (kind : asset.kind = .file) (calls : Nat)
    (overrides : Overrides) (wanted : Option Nat) {session : Session Bucket}
    (here : session.store = bucket) :
    ∃ walked, (catalog.perform Bucket.remote calls (.batches name overrides wanted) session).1 =
        .stream walked ∧
      ∀ descriptor ∈ walked.items, ∃ key stored, (key, stored) ∈ bucket.objects.entries ∧
        stored.size ≠ 0 ∧ descriptor = catalog.defaults.describe asset overrides key ∧
        ∀ (holder : Catalog) (later : Session Bucket), later.store = bucket → ∃ opened,
          (holder.perform Bucket.remote calls (.fetch descriptor) later).1 =
              .ofResult .object opened ∧
            catalog.Opens bucket key stored opened := by
  obtain ⟨handed, -, -⟩ := take_of_steady bucket.isSteady_remote.toListsSteadily catalog calls
    ⟨asset, overrides⟩ wanted here rfl
  rw [perform_batches found, handed]
  refine ⟨_, rfl, fun descriptor member => ?_⟩
  obtain ⟨key, walked, rfl⟩ := List.mem_map.mp member
  obtain ⟨stored, stored_member, nonzero, nonempty⟩ :=
    reads.stored_of_keyWalk kind calls wanted (catalog.position asset) key walked
  refine ⟨key, stored, stored_member, nonzero, rfl, fun _ later there => ⟨_, rfl, ?_⟩⟩
  exact reads.opens nonempty overrides stored_member there

/-- A bucket with an object at the path of the path of another. -/
def encodedTwice : Bucket :=
  [("a#b", [120]), ("a%23b", [121, 121]), ("c", [122])].foldl
    (fun bucket entry => bucket.put entry.1 ⟨none, none, entry.2⟩) (.empty "b")

theorem reads_encodedTwice : pair.Reads paired encodedTwice where
  of := isOf_ofSettings ofSettings_paired
  own := rfl
  single := by decide
  unmarked := Locator.unmarked_of_colon_not_mem (by decide)
  undisturbed := rfl

theorem batch_opens_iff_stable_encodedTwice :
    pair.Reads paired encodedTwice ∧ pair.assets.get? "all" = some (everything "all" "" 1000) ∧
      (everything "all" "" 1000).kind = .file ∧
      ∃ walked, (pair.perform Bucket.remote 1 (.batches "all" .none none)
            (.ofStore encodedTwice (.steady ⟨0⟩ 0))).1 = .stream walked ∧
        ∀ descriptor ∈ walked.items, ∃ key stored, (key, stored) ∈ encodedTwice.objects.entries ∧
          stored.size ≠ 0 ∧
          descriptor = pair.defaults.describe (everything "all" "" 1000) .none key ∧
          ∀ (holder : Catalog) (later : Session Bucket), later.store = encodedTwice → ∃ opened,
            (holder.perform Bucket.remote 1 (.fetch descriptor) later).1 =
                .ofResult .object opened ∧
              pair.Opens encodedTwice key stored opened :=
  ⟨reads_encodedTwice, rfl, rfl,
    batch_opens_iff_stable reads_encodedTwice rfl rfl 1 .none none rfl⟩

/-- The batch of the object that was put under `a#b` is opened as the object that was put under
`a%23b`, and that of the latter as none. -/
theorem batch_opens_other :
    (pair.perform Bucket.remote 1 (.batches "all" .none none)
        (.ofStore encodedTwice (.steady ⟨0⟩ 0))).1.stream?.map Walked.items =
      some (["a%23b", "a%2523b", "c"].map
        (pair.defaults.describe (everything "all" "" 1000) .none)) ∧
      encodedTwice.objects.get? "a%23b" = some ⟨none, none, [120]⟩ ∧
      (pair.perform Bucket.remote 1
          (.fetch (pair.defaults.describe (everything "all" "" 1000) .none "a%23b"))
          (.ofStore encodedTwice (.steady ⟨0⟩ 0))).1 =
        .object (⟨"s3a", "b", "a%23b"⟩, ⟨none, none, "a%2523b", 2, [[121, 121]], none⟩) := by
  exact ⟨rfl, rfl, rfl⟩

end Catalog
end BucketCatalog
