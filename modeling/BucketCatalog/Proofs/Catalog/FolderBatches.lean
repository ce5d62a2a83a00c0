import BucketCatalog.Proofs.Bucket.Folders
import BucketCatalog.Proofs.Catalog.Fetching

/-!
# Opening batches of directories

A batch of a directory asset is the address of a common prefix, which ends with the delimiter.  It
can be opened like any other: its key is made into a path, and what is stored there is handed out.
With a delimiter that ends in a slash that path is never the key, since a path has no slash at its
end, so that what is handed out is an object beside the directory, not in it.
-/

namespace BucketCatalog

open Listing

namespace StoredPath

/-- A slash at the end of a key is not part of its path. -/
theorem ofKey_append_slash (base : String) : ofKey (base ++ "/") = ofKey base := by
  have split : (base ++ "/").toList.splitOn '/' = base.toList.splitOn '/' ++ [[]] := by
    rw [String.toList_append]
    exact List.splitOn_append_cons_self base.toList []
  rw [← String.toList_inj, toList_ofKey, toList_ofKey, split]
  simp

/-- What ends in a slash is not its own path. -/
theorem not_isStable_append_slash (base : String) : ¬IsStable (base ++ "/") := by
  intro stable
  have nonempty : base ++ "/" ≠ "" := by simp
  have member : [] ∈ (base ++ "/").toList.splitOn '/' := by
    rw [String.toList_append]
    change [] ∈ (base.toList ++ '/' :: []).splitOn '/'
    rw [List.splitOn_append_cons_self]
    simp
  exact ((isStable_iff nonempty).mp stable [] member).nonempty rfl

end StoredPath

namespace Bucket

variable {bucket : Bucket} {asset : Asset} {key : String}

/-- What a directory asset keeps of a page ends with its delimiter and leads a stored path. -/
theorem folder_of_survivor {token : Option String} {page : Page}
    (undisturbed : bucket.disturbance.listing = none) (kind : asset.kind = .directory)
    {name : String} (answered : bucket.list (asset.request name token) = .ok page)
    (survives : key ∈ asset.survivors page) :
    (∃ before, key = asset.keyPrefix ++ before ++ asset.delimiter) ∧ asset.delimiter ≠ "" ∧
      ∃ path ∈ bucket.objects.keys, key.toList <+: path.toList := by
  obtain rfl := eq_ofEntries_of_list undisturbed answered
  rw [Asset.survivors_ofEntries, Asset.keysOf, List.mem_map] at survives
  obtain ⟨⟨listed, entry⟩, kept, rfl⟩ := survives
  obtain ⟨on_page, wanted⟩ := List.mem_filter.mp kept
  obtain ⟨⟨object, fed, represents⟩, -⟩ := mem_remaining.mp (List.mem_of_mem_take on_page)
  obtain ⟨member, -, -⟩ := (mem_feed_iff undisturbed).mp fed
  have leads := name_leads (rollUp_of_represents represents)
  cases represents with
  | object rest under flat => simp [Asset.isOfKind, kind] at wanted
  | folder before after marked under first =>
      exact ⟨⟨before, rfl⟩, marked, object.key, key_mem_keys member, leads⟩

theorem retrieve_eq_ok_iff (undisturbed : bucket.disturbance = .none) {name : String}
    {object : Retrieved} :
    bucket.retrieve name key = .ok object ↔
      name = bucket.name ∧ ∃ stored, bucket.objects.get? (StoredPath.ofKey key) = some stored ∧
        object = stored.retrieved (StoredPath.ofKey key) := by
  by_cases own : name = bucket.name
  · rw [own]
    cases found : bucket.objects.get? (StoredPath.ofKey key) with
    | none => simp [retrieve_of_absent undisturbed found]
    | some stored => simp [retrieve_of_found undisturbed found, eq_comm]
  · simp [retrieve, own]

/-- A descriptor is opened as what is stored at the path of the key of its address. -/
theorem fetch_eq_ok_iff (undisturbed : bucket.disturbance = .none) {descriptor : Descriptor}
    {locator : Locator} {object : Retrieved} {session : Session Bucket}
    (here : session.store = bucket) :
    (remote.session.fetch descriptor session).1 = .ok (locator, object) ↔
      descriptor.locate = .ok locator ∧ locator.bucket = bucket.name ∧
        ∃ stored, bucket.objects.get? (StoredPath.ofKey locator.key) = some stored ∧
          object = stored.retrieved (StoredPath.ofKey locator.key) := by
  rw [← retrieve_eq_ok_iff undisturbed]
  cases located : descriptor.locate with
  | error fault => simp [Remote.fetch, located]
  | ok own =>
      have fetched : (remote.session.fetch descriptor session).1 =
          ((bucket.retrieve own.bucket own.key).mapError Fault.store).map (Prod.mk own) := by
        simp only [Remote.fetch, located, Remote.session, remote, here]
        cases bucket.retrieve own.bucket own.key <;> rfl
      rw [fetched, Except.ok.injEq]
      constructor
      · intro opened
        cases answer : bucket.retrieve own.bucket own.key with
        | error failure => simp [answer, Except.mapError, Except.map] at opened
        | ok retrieved =>
            simp only [answer, Except.mapError, Except.map, Except.ok.injEq, Prod.mk.injEq]
              at opened
            obtain ⟨rfl, rfl⟩ := opened
            exact ⟨rfl, answer⟩
      · rintro ⟨rfl, answer⟩
        rw [answer]
        rfl

end Bucket

/-- The key of the address of a batch ends as the key of the batch does. -/
theorem BatchDefaults.key_of_locate {defaults : BatchDefaults} {asset : Asset}
    {overrides : Overrides} {start : String} {locator : Locator}
    (located : (defaults.describe asset overrides (start ++ "/")).locate = .ok locator) :
    ∃ base, locator.key = base ++ "/" := by
  have parsed : Locator.parse (defaults.locator (start ++ "/")).text = .ok locator := by
    simp only [Descriptor.locate, describe] at located
    split at located
    · next parsed => rw [parsed, Except.ok.inj located]
    · contradiction
  have some_key : locator.key.toList ≠ [] := by
    simpa using (Locator.isReadable_of_parse parsed).key
  -- Both keys end the same text.
  have same := congrArg String.toList (Locator.text_of_parse parsed)
  simp only [Locator.text, BatchDefaults.locator, String.toList_append, ← List.append_assoc] at same
  have last : locator.key.toList.getLast? = some '/' := by
    rw [← List.getLast?_append_of_ne_nil _ some_key, same]
    exact List.getLast?_concat (a := '/')
  obtain ⟨base, whole⟩ := List.getLast?_eq_some_iff.mp last
  exact ⟨String.ofList base, by rw [← String.toList_inj, whole]; simp⟩

namespace Catalog

/-- What a batch of a directory is opened as. -/
structure OpensFolder (bucket : Bucket) (delimiter : String) (descriptor : Descriptor)
    (opened : Except Fault Fetched) : Prop where
  /-- An object is handed out exactly if one is stored at the path of the key. -/
  handed_iff : ∀ locator object, opened = .ok (locator, object) ↔
    descriptor.locate = .ok locator ∧ locator.bucket = bucket.name ∧
      ∃ stored, bucket.objects.get? (StoredPath.ofKey locator.key) = some stored ∧
        object = stored.retrieved (StoredPath.ofKey locator.key)
  /-- It is the one that is stored at the key exactly if the key is its own path. -/
  own_iff : ∀ locator object, opened = .ok (locator, object) →
    (object.location = locator.key ↔ StoredPath.IsStable locator.key)
  /-- With a delimiter that ends in a slash it is one beside the directory. -/
  beside : ∀ start, delimiter = start ++ "/" → ∀ locator object, opened = .ok (locator, object) →
    ∃ base, locator.key = base ++ "/" ∧ object.location = StoredPath.ofKey base ∧
      object.location ≠ locator.key

variable {catalog : Catalog} {bucket : Bucket} {name key : String} {asset : Asset}

theorem opensFolder_fetch (undisturbed : bucket.disturbance = .none) (defaults : BatchDefaults)
    (asset : Asset) (overrides : Overrides) (start : String) {session : Session Bucket}
    (here : session.store = bucket) :
    OpensFolder bucket asset.delimiter
      (defaults.describe asset overrides (start ++ asset.delimiter))
      (Bucket.remote.session.fetch
        (defaults.describe asset overrides (start ++ asset.delimiter)) session).1 where
  handed_iff := fun locator object => Bucket.fetch_eq_ok_iff undisturbed here
  own_iff := by
    intro locator object opened
    obtain ⟨-, -, stored, -, rfl⟩ := (Bucket.fetch_eq_ok_iff undisturbed here).mp opened
    rfl
  beside := by
    intro lead slash locator object opened
    obtain ⟨located, -, stored, -, rfl⟩ := (Bucket.fetch_eq_ok_iff undisturbed here).mp opened
    rw [slash, ← String.append_assoc] at located
    obtain ⟨base, ends⟩ := BatchDefaults.key_of_locate located
    refine ⟨base, ends, ?_, ?_⟩
    · change StoredPath.ofKey locator.key = _
      rw [ends, StoredPath.ofKey_append_slash]
    · change ¬StoredPath.IsStable locator.key
      rw [ends]
      exact StoredPath.not_isStable_append_slash base

/--
Every batch that is handed out of a directory asset is the address of a text that ends with the
delimiter and leads a stored path.  Opened at any time while the bucket is as it was, it gives what
is stored at the path of its key.  That is the object at the key itself exactly if the key is its
own path, which it never is if the delimiter ends in a slash.
-/
theorem folder_batch_opens_beside (undisturbed : bucket.disturbance = .none)
    (found : catalog.assets.get? name = some asset) (kind : asset.kind = .directory) (calls : Nat)
    (overrides : Overrides) (wanted : Option Nat) {session : Session Bucket}
    (here : session.store = bucket) :
    ∃ walked, (catalog.perform Bucket.remote calls (.batches name overrides wanted) session).1 =
        .stream walked ∧
      ∀ descriptor ∈ walked.items, ∃ start,
        (∃ path ∈ bucket.objects.keys, (start ++ asset.delimiter).toList <+: path.toList) ∧
        descriptor = catalog.defaults.describe asset overrides (start ++ asset.delimiter) ∧
        ∀ (holder : Catalog) (later : Session Bucket), later.store = bucket → ∃ opened,
          (holder.perform Bucket.remote calls (.fetch descriptor) later).1 =
              .ofResult .object opened ∧
            OpensFolder bucket asset.delimiter descriptor opened := by
  have unfailing : bucket.disturbance.listing = none := by
    rw [undisturbed]
    rfl
  have folders : ∀ key ∈ (catalog.keyWalk Bucket.remote bucket calls asset wanted
      (catalog.position asset)).items,
      ∃ start, key = start ++ asset.delimiter ∧
        ∃ path ∈ bucket.objects.keys, key.toList <+: path.toList := by
    rw [keyWalk]
    apply Walk.forall_mem_run
    intro token _ page answered key survives
    obtain ⟨⟨before, rfl⟩, -, leads⟩ := Bucket.folder_of_survivor unfailing kind answered survives
    exact ⟨asset.keyPrefix ++ before, rfl, leads⟩
  obtain ⟨handed, -, -⟩ := take_of_steady bucket.isSteady_remote.toListsSteadily catalog calls
    ⟨asset, overrides⟩ wanted here rfl
  rw [perform_batches found, handed]
  refine ⟨_, rfl, fun descriptor member => ?_⟩
  obtain ⟨key, walked, rfl⟩ := List.mem_map.mp member
  obtain ⟨start, rfl, leads⟩ := folders key walked
  exact ⟨start, leads, rfl, fun _ later there =>
    ⟨_, rfl, opensFolder_fetch undisturbed catalog.defaults asset overrides start there⟩⟩

/-- Settings of one asset of all directories. -/
def shelved : Settings :=
  { Settings.ofBucket "b" with
    assets := .ofList [("dirs", { AssetSettings.ofPrefix "" with directories := true })] }

/-- The asset of all directories. -/
def directories : Asset :=
  { everything "dirs" "" 1000 with kind := .directory }

/-- The catalog of all directories. -/
def shelf : Catalog where
  name := "default"
  defaults := shelved.batchDefaults
  assets := .ofList [("dirs", directories)]
  cursors := .ofList [("dirs", .start)]

/-- A bucket with an object beside a directory of the same name. -/
def besideFolder : Bucket :=
  [("a", [120]), ("a/b", [121, 122])].foldl
    (fun bucket entry => bucket.put entry.1 ⟨none, none, entry.2⟩) (.empty "b")

theorem folder_batch_opens_beside_shelf :
    besideFolder.disturbance = .none ∧ shelf.assets.get? "dirs" = some directories ∧
      directories.kind = .directory ∧
      ∃ walked, (shelf.perform Bucket.remote 1 (.batches "dirs" .none none)
            (.ofStore besideFolder (.steady ⟨0⟩ 0))).1 = .stream walked ∧
        ∀ descriptor ∈ walked.items, ∃ start,
          (∃ path ∈ besideFolder.objects.keys, (start ++ "/").toList <+: path.toList) ∧
          descriptor = shelf.defaults.describe directories .none (start ++ "/") ∧
          ∀ (holder : Catalog) (later : Session Bucket), later.store = besideFolder → ∃ opened,
            (holder.perform Bucket.remote 1 (.fetch descriptor) later).1 =
                .ofResult .object opened ∧
              OpensFolder besideFolder "/" descriptor opened :=
  have undisturbed : besideFolder.disturbance = .none := rfl
  have found : shelf.assets.get? "dirs" = some directories := rfl
  ⟨undisturbed, found, rfl, folder_batch_opens_beside undisturbed found rfl 1 .none none rfl⟩

/-- The batch of the directory `a/` is opened as the object at `a`. -/
theorem folder_batch_opens_other :
    Catalog.ofSettings shelved = .ok shelf ∧
      (shelf.perform Bucket.remote 1 (.batches "dirs" .none none)
        (.ofStore besideFolder (.steady ⟨0⟩ 0))).1.stream?.map Walked.items =
        some [shelf.defaults.describe directories .none "a/"] ∧
      (shelf.perform Bucket.remote 1 (.fetch (shelf.defaults.describe directories .none "a/"))
          (.ofStore besideFolder (.steady ⟨0⟩ 0))).1 =
        .object (⟨"s3a", "b", "a/"⟩, ⟨none, none, "a", 1, [[120]], none⟩) := by
  exact ⟨rfl, rfl, rfl⟩

end Catalog
end BucketCatalog
