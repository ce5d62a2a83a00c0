import BucketCatalog.Proofs.Chain

/-!
# Listings of listed folders

A common prefix is the beginning of a stored path.  When it is listed in turn, the part of it before
its last slash is made into a path once more, and only what lies below that path is read.  So the
listing shows what is in the folder exactly if that part is its own path, and is empty otherwise.
-/

namespace BucketCatalog

open Listing

namespace Bucket

variable {bucket : Bucket} {request inner : Request} {page inside : Page} {folder : String}

/-- A bucket whose objects were put under keys. -/
def HoldsPaths (bucket : Bucket) : Prop :=
  ∀ path ∈ bucket.objects.keys, StoredPath.IsPath path

theorem holdsPaths_empty (name : String) : (empty name).HoldsPaths := by
  simp [HoldsPaths, empty, Table.keys, Table.empty]

theorem HoldsPaths.put (holds : bucket.HoldsPaths) (key : String) (object : Stored) :
    (bucket.put key object).HoldsPaths := by
  intro path member
  rw [← Table.contains_iff_mem_keys] at member
  rcases Table.contains_insert.mp member with rfl | old
  · exact ⟨key, rfl⟩
  · exact holds path (Table.contains_iff_mem_keys.mp old)

theorem HoldsPaths.delete (holds : bucket.HoldsPaths) (key : String) :
    (bucket.delete key).HoldsPaths := by
  intro path member
  obtain ⟨entry, kept, rfl⟩ := List.mem_map.mp member
  exact holds entry.1 (List.mem_map_of_mem (Entries.mem_of_mem_erase kept))

theorem holdsPaths_ofKeys (name : String) (keys : List String) : (ofKeys name keys).HoldsPaths := by
  have puts : ∀ (keys : List String) (bucket : Bucket), bucket.HoldsPaths →
      (keys.foldl (fun bucket key => bucket.put key ⟨none, none, []⟩) bucket).HoldsPaths := by
    intro keys
    induction keys with
    | nil => exact fun _ holds => holds
    | cons key keys ih => exact fun bucket holds => ih _ (holds.put key ⟨none, none, []⟩)
  exact puts keys (empty name) (holdsPaths_empty name)

theorem own_of_list (answered : bucket.list request = .ok page) :
    request.bucket = bucket.name := by
  rw [list] at answered
  split at answered
  · next own => exact own
  · contradiction

theorem eq_ofEntries_of_list (undisturbed : bucket.disturbance.listing = none)
    (answered : bucket.list request = .ok page) :
    page = .ofEntries (bucket.remaining request) request.pageSize := by
  rw [list_eq (own_of_list answered) undisturbed] at answered
  exact (Except.ok.inj answered).symm

/-- A reported common prefix leads the path of an object that can be listed. -/
theorem exists_of_mem_commonPrefixes (undisturbed : bucket.disturbance.listing = none)
    (answered : bucket.list request = .ok page) (reported : folder ∈ page.commonPrefixes.getD []) :
    ∃ object ∈ bucket.listed, object.key ≠ "" ∧ folder.toList <+: object.key.toList := by
  obtain rfl := eq_ofEntries_of_list undisturbed answered
  simp only [Page.ofEntries, getD_nonEmpty?] at reported
  obtain ⟨⟨name, entry⟩, on_page, is_folder⟩ := List.mem_filterMap.mp reported
  cases entry with
  | object size => contradiction
  | folder =>
      obtain rfl := Option.some.inj is_folder
      obtain ⟨⟨object, fed, represents⟩, -⟩ := mem_remaining.mp (List.mem_of_mem_take on_page)
      obtain ⟨member, below, -⟩ := (mem_feed_iff undisturbed).mp fed
      exact ⟨object, member, StoredPath.ne_empty_of_isBelow below,
        name_leads (rollUp_of_represents represents)⟩

/-- A first page has an entry exactly if some object under the prefix lies below its base. -/
theorem listed_ne_nil_iff (undisturbed : bucket.disturbance.listing = none)
    (first : inner.token = none) (answered : bucket.list inner = .ok inside) :
    inside.listed ≠ [] ↔
      ∃ object ∈ bucket.listed, StoredPath.isBelow (basePath inner.keyPrefix) object.key ∧
        inner.keyPrefix.toList <+: object.key.toList := by
  obtain rfl := eq_ofEntries_of_list undisturbed answered
  have some_left : 0 < (Page.ofEntries (bucket.remaining inner) inner.pageSize).listed.length ↔
      ∃ listed, listed ∈ bucket.remaining inner := by
    rw [← List.length_pos_iff_exists_mem, (listed_ofEntries_perm _ _).length_eq, List.length_take]
    have := inner.pageSize_pos
    omega
  rw [← List.length_pos_iff, some_left]
  constructor
  · rintro ⟨listed, left⟩
    obtain ⟨⟨object, fed, represents⟩, -⟩ := mem_remaining.mp left
    obtain ⟨member, below, -⟩ := (mem_feed_iff undisturbed).mp fed
    have rolled := rollUp_of_represents represents
    exact ⟨object, member, below, (prefix_leads rolled).trans (name_leads rolled)⟩
  · rintro ⟨object, member, below, leads⟩
    obtain ⟨listed, represents⟩ := exists_represents inner.delimiter leads
    have fed : object ∈ (bucket.feed inner.keyPrefix inner.token).objects :=
      (mem_feed_iff undisturbed).mpr ⟨member, below, by rw [first]; rfl⟩
    exact ⟨listed, mem_remaining.mpr ⟨⟨object, fed, represents⟩, by rw [first]; rfl⟩⟩

/-- Everything on a page is under the prefix of the request. -/
theorem prefix_leads_of_listed (undisturbed : bucket.disturbance.listing = none)
    (answered : bucket.list inner = .ok inside) :
    ∀ listed ∈ inside.listed, inner.keyPrefix.toList <+: listed.1.toList := by
  obtain rfl := eq_ofEntries_of_list undisturbed answered
  intro listed on_page
  have left := List.mem_of_mem_take ((listed_ofEntries_perm _ _).mem_iff.mp on_page)
  obtain ⟨⟨object, -, represents⟩, -⟩ := mem_remaining.mp left
  exact prefix_leads (rollUp_of_represents represents)

/--
A common prefix that a listing reports can be listed in turn, with any delimiter and page size.
Everything on its first page starts with it, and there is something on that page exactly if the part
of it before its last slash is its own path.
-/
theorem folder_lists_iff_base_stable (holds : bucket.HoldsPaths)
    (undisturbed : bucket.disturbance.listing = none) (answered : bucket.list request = .ok page)
    (reported : folder ∈ page.commonPrefixes.getD []) (delimiter : String) (maxKeys : UInt32) :
    ∃ inside, bucket.list ⟨bucket.name, folder, delimiter, maxKeys, none⟩ = .ok inside ∧
      (∀ listed ∈ inside.listed, folder.toList <+: listed.1.toList) ∧
      (inside.listed ≠ [] ↔ StoredPath.IsStable (baseText folder)) := by
  let inner : Request := ⟨bucket.name, folder, delimiter, maxKeys, none⟩
  have inside_eq : bucket.list inner = .ok (.ofEntries (bucket.remaining inner) inner.pageSize) :=
    list_eq rfl undisturbed
  refine ⟨_, inside_eq, prefix_leads_of_listed undisturbed inside_eq, ?_⟩
  rw [listed_ne_nil_iff undisturbed rfl inside_eq]
  constructor
  · rintro ⟨object, member, below, leads⟩
    rw [basePath_eq] at below
    obtain ⟨empty, -⟩ | ⟨rest, split⟩ := baseText_cases leads
    · rw [empty]
      exact StoredPath.isStable_empty
    · exact StoredPath.isStable_of_isBelow (holds _ (key_mem_keys member)) split below
  · intro base_stable
    obtain ⟨object, member, nonempty, leads⟩ :=
      exists_of_mem_commonPrefixes undisturbed answered reported
    exact ⟨object, member, isBelow_of_isStable_baseText base_stable nonempty leads, leads⟩

/-- A bucket with a folder whose name has a character that is written by its byte. -/
def hashedFolder : Bucket :=
  ofKeys "b" ["a#/b", "c/d"]

/-- The common prefixes of a bucket. -/
def foldersPage : Page :=
  ⟨none, some ["a%23/", "c/"], false, none⟩

theorem list_hashedFolder : hashedFolder.list (Request.ofPrefix "b" "") = .ok foldersPage := by
  decide +kernel

theorem folder_lists_iff_base_stable_hashed :
    hashedFolder.HoldsPaths ∧ hashedFolder.disturbance.listing = none ∧
      hashedFolder.list (Request.ofPrefix "b" "") = .ok foldersPage ∧
      "c/" ∈ foldersPage.commonPrefixes.getD [] ∧
      ∃ inside, hashedFolder.list (Request.ofPrefix "b" "c/") = .ok inside ∧
        (∀ listed ∈ inside.listed, "c/".toList <+: listed.1.toList) ∧ inside.listed ≠ [] := by
  have reported : "c/" ∈ foldersPage.commonPrefixes.getD [] := by decide
  obtain ⟨inside, answered, leads, some_listed⟩ :=
    folder_lists_iff_base_stable (holdsPaths_ofKeys "b" ["a#/b", "c/d"]) rfl list_hashedFolder
      reported "/" 1000
  exact ⟨holdsPaths_ofKeys "b" ["a#/b", "c/d"], rfl, list_hashedFolder, reported, inside, answered,
    leads, some_listed.mpr (by decide +kernel)⟩

/-- A common prefix that leads nowhere. -/
theorem folder_lists_nothing :
    hashedFolder.list (Request.ofPrefix "b" "") = .ok foldersPage ∧
      "a%23/" ∈ foldersPage.commonPrefixes.getD [] ∧
      hashedFolder.list (Request.ofPrefix "b" "a%23/") = .ok ⟨none, none, false, none⟩ := by
  refine ⟨list_hashedFolder, by decide, ?_⟩
  decide +kernel

end Bucket
end BucketCatalog
