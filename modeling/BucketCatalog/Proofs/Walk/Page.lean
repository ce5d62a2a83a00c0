import BucketCatalog.Proofs.Chain
import BucketCatalog.Proofs.Walk

/-!
# What an asset makes of a page

A page is made from a block of entries.  An asset needs an entry of its kind in the block; then it
hands out the keys of its kind, and otherwise it refuses the page with the names of the other kind.
-/

namespace BucketCatalog

open Listing

namespace Listing

@[simp]
theorem Entry.object_beq_folder (size : UInt64) : (Entry.object size == .folder) = false :=
  beq_eq_false_iff_ne.mpr (by simp)

@[simp]
theorem Entry.object_beq_zero (size : UInt64) :
    (Entry.object size == .object 0) = !decide (0 < size) := by
  rw [Bool.eq_iff_iff, beq_iff_eq, Entry.object.injEq, Bool.not_eq_true', decide_eq_false_iff_not,
    UInt64.pos_iff_ne_zero, not_not]

theorem filterMap_folder? (block : List (String × Entry)) :
    block.filterMap Entry.folder? =
      (block.filter fun listed => listed.2 == .folder).map Prod.fst := by
  induction block with
  | nil => rfl
  | cons head block ih =>
      obtain ⟨name, _ | size⟩ := head <;> simp [List.filterMap_cons, Entry.folder?, ih]

theorem map_key_filterMap_listed? (block : List (String × Entry)) :
    (block.filterMap Entry.listed?).map Listed.key =
      (block.filter fun listed => listed.2 != .folder).map Prod.fst := by
  induction block with
  | nil => rfl
  | cons head block ih =>
      obtain ⟨name, _ | size⟩ := head <;> simp [List.filterMap_cons, Entry.listed?, ih]

theorem map_key_filled (block : List (String × Entry)) :
    ((block.filterMap Entry.listed?).filter fun object => 0 < object.size).map Listed.key =
      (block.filter fun listed => listed.2 != .folder && listed.2 != .object 0).map Prod.fst := by
  induction block with
  | nil => rfl
  | cons head block ih =>
      obtain ⟨name, _ | size⟩ := head
      · simp [List.filterMap_cons, Entry.listed?, ih]
      · by_cases filled : 0 < size <;>
          simp [Entry.listed?, ih, bne, filled]

theorem map_nonEmpty? {α β : Type} (items : List α) (convert : List α → List β)
    (empty : convert [] = []) : ((nonEmpty? items).map convert).getD [] = convert items := by
  cases items with
  | nil => simp [nonEmpty?, empty]
  | cons item items => rfl

theorem map_map_nonEmpty? {α β : Type} (items : List α) (convert : α → β) :
    (nonEmpty? items).map (List.map convert) = nonEmpty? (items.map convert) := by
  cases items with
  | nil => rfl
  | cons item items => rfl

theorem isSome_nonEmpty?_filterMap {α β : Type} (items : List α) (pick : α → Option β) :
    (nonEmpty? (items.filterMap pick)).isSome = items.any fun item => (pick item).isSome := by
  induction items with
  | nil => rfl
  | cons item items ih =>
      cases picked : pick item with
      | none => simp [picked, ih]
      | some value => simp [picked, nonEmpty?]

end Listing

namespace Asset

variable {asset : Asset} {entries : List (String × Entry)} {size : Nat} {fault : Fault}

/-- The page size of an asset's requests. -/
def pageSize (asset : Asset) : Nat :=
  max 1 asset.maxKeys.toNat

@[simp]
theorem pageSize_request (asset : Asset) (bucket : String) (token : Option String) :
    (asset.request bucket token).pageSize = asset.pageSize := rfl

theorem pageSize_pos (asset : Asset) : 0 < asset.pageSize :=
  Nat.lt_of_lt_of_le Nat.zero_lt_one (Nat.le_max_left _ _)

/-- Whether an entry is of the kind that the batches of an asset are made of. -/
def isOfKind (asset : Asset) : Entry → Bool
  | .folder => asset.kind = .directory
  | .object _ => asset.kind = .file

/-- Whether a block has an entry of the asset's kind. -/
def isGood (asset : Asset) (block : List (String × Entry)) : Bool :=
  block.any fun listed => asset.isOfKind listed.2

/-- The keys that an asset hands out of entries: those of its kind that are not empty objects and
that its filter accepts. -/
def keysOf (asset : Asset) (block : List (String × Entry)) : List String :=
  (block.filter fun listed =>
    asset.isOfKind listed.2 && listed.2 != .object 0 && asset.accepts listed.1).map Prod.fst

/-- The names of the entries of the other kind. -/
def othersOf (asset : Asset) (block : List (String × Entry)) : List String :=
  (block.filter fun listed => !asset.isOfKind listed.2).map Prod.fst

/-- The fault of a page without entries of the asset's kind. -/
def missing (asset : Asset) : PageFault :=
  match asset.kind with
  | .file => .noContents
  | .directory => .noCommonPrefixes

theorem isOfKind_of_directory (kind : asset.kind = .directory) :
    asset.isOfKind = fun entry => entry == .folder := by
  funext entry
  cases entry <;> simp [isOfKind, kind]

theorem isOfKind_of_file (kind : asset.kind = .file) :
    asset.isOfKind = fun entry => entry != .folder := by
  funext entry
  cases entry <;> simp [isOfKind, kind]

theorem survivors_ofEntries (asset : Asset) (entries : List (String × Entry)) (size : Nat) :
    asset.survivors (.ofEntries entries size) = asset.keysOf (entries.take size) := by
  simp only [survivors, collection?, Page.ofEntries, keysOf]
  generalize entries.take size = kept
  cases kind : asset.kind with
  | directory =>
      rw [getD_nonEmpty?, filterMap_folder?, isOfKind_of_directory kind, List.filter_map,
        List.filter_filter]
      congr 1
      refine List.filter_congr ?_
      rintro ⟨name, _ | size⟩ - <;> simp [bne]
  | file =>
      rw [map_nonEmpty? _ (fun objects =>
          (objects.filter fun object => 0 < object.size).map Listed.key) rfl,
        map_key_filled, isOfKind_of_file kind, List.filter_map, List.filter_filter]
      congr 1
      refine List.filter_congr ?_
      rintro ⟨name, _ | size⟩ - <;> simp [bne, Bool.and_comm]

theorem survivors_sublist (asset : Asset) (entries : List (String × Entry)) (size : Nat) :
    (asset.survivors (.ofEntries entries size)).Sublist ((entries.take size).map Prod.fst) := by
  rw [survivors_ofEntries, keysOf]
  exact List.filter_sublist.map Prod.fst

theorem isSome_collection?_ofEntries (asset : Asset) (entries : List (String × Entry))
    (size : Nat) :
    (asset.collection? (.ofEntries entries size)).isSome = asset.isGood (entries.take size) := by
  simp only [collection?, Page.ofEntries, isGood]
  cases kind : asset.kind with
  | directory =>
      rw [isSome_nonEmpty?_filterMap]
      congr 1
      funext listed
      obtain ⟨name, _ | size⟩ := listed <;> simp [Entry.folder?, isOfKind, kind]
  | file =>
      rw [Option.isSome_map, isSome_nonEmpty?_filterMap]
      congr 1
      funext listed
      obtain ⟨name, _ | size⟩ := listed <;> simp [Entry.listed?, isOfKind, kind]

/-- The fault of a block that is not good. -/
def faultOf (asset : Asset) (block : List (String × Entry)) : Fault :=
  .page asset.name asset.kind asset.missing (collectionOf (asset.othersOf block))

theorem refuses_ofEntries (positive : 0 < size)
    (refused : asset.Refuses (.ok (.ofEntries entries size)) fault) :
    asset.isGood (entries.take size) = false ∧ fault = asset.faultOf (entries.take size) := by
  rw [← isSome_collection?_ofEntries]
  cases refused with
  | noCommonPrefixes _ kind absent =>
      refine ⟨by simp [collection?, kind, absent], ?_⟩
      simp only [faultOf, missing, kind, Page.ofEntries, othersOf, isOfKind_of_directory kind,
        collectionOf_eq]
      rw [map_map_nonEmpty?, map_key_filterMap_listed?]
      rfl
  | noContents _ kind absent =>
      refine ⟨by simp [collection?, kind, absent], ?_⟩
      simp only [faultOf, missing, kind, Page.ofEntries, othersOf, isOfKind_of_file kind,
        collectionOf_eq]
      rw [filterMap_folder?]
      simp [bne]
  | noToken _ found more absent =>
      simp only [Page.ofEntries, decide_eq_true_iff] at more
      -- A block with entries after it is not empty, and its last name is the token.
      obtain ⟨front, last, block⟩ := exists_block positive more
      simp [Page.ofEntries, more, block] at absent

theorem isLast_ofEntries (last : asset.IsLast (.ok (.ofEntries entries size))) :
    asset.isGood (entries.take size) ∧ entries.length ≤ size := by
  obtain ⟨_, ⟨⟩, found, complete⟩ := last
  rw [isSome_collection?_ofEntries] at found
  exact ⟨found, by simpa [Page.ofEntries] using complete⟩

theorem turns_ofEntries {later : String} (turns : asset.Turns (.ofEntries entries size) later) :
    asset.isGood (entries.take size) ∧ size < entries.length ∧
      ∃ front last, entries.take size = front ++ [last] ∧ later = last.1 := by
  obtain ⟨found, more, brings⟩ := turns
  rw [isSome_collection?_ofEntries] at found
  simp only [Page.ofEntries, decide_eq_true_iff] at more
  simp only [Page.ofEntries, more, decide_true, if_true, Option.map_eq_some_iff,
    List.getLast?_eq_some_iff] at brings
  obtain ⟨last, ⟨front, block⟩, rfl⟩ := brings
  exact ⟨found, more, front, last, block, rfl⟩

end Asset
end BucketCatalog
