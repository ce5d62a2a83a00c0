import BucketCatalog.Proofs.Walk.Blocks

/-!
# Page sizes

A page size only cuts the entries of a bucket into blocks.  It changes what an asset hands out in
one way: a pass fails on a block without an entry of the asset's kind.  So passes of any two sizes
without such a block are the same, and a pass of any other size stops early.
-/

namespace BucketCatalog

open Listing

namespace Asset

variable {asset : Asset} {entries : List (String × Entry)}

/-- An asset with another page size. -/
def withMaxKeys (asset : Asset) (maxKeys : UInt32) : Asset :=
  { asset with maxKeys := maxKeys }

/-- Whether all blocks that an asset reads entries in have one of its kind. -/
def ReadsToEnd (asset : Asset) (entries : List (String × Entry)) : Prop :=
  ∀ block ∈ blocks entries asset.pageSize, asset.isGood block

instance (asset : Asset) (entries : List (String × Entry)) :
    Decidable (asset.ReadsToEnd entries) :=
  inferInstanceAs (Decidable (∀ block ∈ blocks entries asset.pageSize, asset.isGood block))

theorem flatMap_keysOf (asset : Asset) (parts : List (List (String × Entry))) :
    parts.flatMap asset.keysOf = asset.keysOf parts.flatten := by
  induction parts with
  | nil => rfl
  | cons part parts ih => simp [ih, keysOf]

theorem exists_first_bad (stops : ¬asset.ReadsToEnd entries) :
    ∃ before block after, blocks entries asset.pageSize = before ++ block :: after ∧
      (∀ block ∈ before, asset.isGood block) ∧ asset.isGood block = false := by
  have some_bad :
      ((blocks entries asset.pageSize).find? fun block => !asset.isGood block).isSome := by
    simpa [ReadsToEnd] using stops
  obtain ⟨block, found⟩ := Option.isSome_iff_exists.mp some_bad
  obtain ⟨bad, before, after, cut, good⟩ := List.find?_eq_some_iff_append.mp found
  exact ⟨before, block, after, cut, by simpa using good, by simpa using bad⟩

theorem readBlocks_of_readsToEnd (reads : asset.ReadsToEnd entries) :
    asset.readBlocks none (blocks entries asset.pageSize) =
      ⟨asset.keysOf entries, .done, .start⟩ := by
  rw [(readBlocks_of_good reads).1, flatMap_keysOf, flatten_blocks asset.pageSize_pos]

/-- A pass that does not read to the end fails after the first of these keys. -/
theorem readBlocks_of_not_readsToEnd (stops : ¬asset.ReadsToEnd entries) :
    (∃ others, (asset.readBlocks none (blocks entries asset.pageSize)).ending =
        .failed (.page asset.name asset.kind asset.missing others)) ∧
      (asset.readBlocks none (blocks entries asset.pageSize)).items <+: asset.keysOf entries := by
  obtain ⟨before, block, after, cut, good, bad⟩ := exists_first_bad stops
  have whole := flatten_blocks asset.pageSize_pos entries
  rw [cut, List.flatten_append] at whole
  rw [cut, (readBlocks_of_bad good bad).1, flatMap_keysOf, ← whole]
  refine ⟨⟨_, rfl⟩, asset.keysOf (block :: after).flatten, ?_⟩
  simp [keysOf]

end Asset

namespace Walk

variable {bucket : Bucket}

/--
Over an unchanged bucket of stable paths passes of any two page sizes that read to the end are the
same: they hand out the same keys and end normally.  A pass of any size ends normally exactly if it
reads to the end; otherwise it fails on a page without entries of the asset's kind, and what it has
handed out by then are the first of the same keys.
-/
theorem drain_same_for_page_sizes (stable : bucket.IsStable)
    (undisturbed : bucket.disturbance.listing = none) (asset : Asset) :
    ∃ entries, bucket.ListsAs asset.keyPrefix asset.delimiter entries ∧
      (∀ first second, (asset.withMaxKeys first).ReadsToEnd entries →
        (asset.withMaxKeys second).ReadsToEnd entries →
        ∀ firstCalls, blockCount entries (asset.withMaxKeys first).pageSize ≤ firstCalls →
        ∀ secondCalls, blockCount entries (asset.withMaxKeys second).pageSize ≤ secondCalls →
          drain bucket (asset.withMaxKeys first) firstCalls =
              drain bucket (asset.withMaxKeys second) secondCalls ∧
            drain bucket (asset.withMaxKeys first) firstCalls =
              ⟨asset.keysOf entries, .done, .start⟩) ∧
      ∀ size calls, blockCount entries (asset.withMaxKeys size).pageSize ≤ calls →
        ((drain bucket (asset.withMaxKeys size) calls).ending = .done ↔
            (asset.withMaxKeys size).ReadsToEnd entries) ∧
          (¬(asset.withMaxKeys size).ReadsToEnd entries →
            ∃ others, (drain bucket (asset.withMaxKeys size) calls).ending =
              .failed (.page asset.name asset.kind asset.missing others)) ∧
          (drain bucket (asset.withMaxKeys size) calls).items <+: asset.keysOf entries := by
  have lists := bucket.listsAs_rolledUp asset.keyPrefix asset.delimiter
  have drained {size : UInt32} {calls : Nat} := @drain_blocks bucket (asset.withMaxKeys size) calls
    _ stable undisturbed lists
  refine ⟨_, lists, ?_, ?_⟩
  · intro first second reads_first reads_second firstCalls enough_first secondCalls enough_second
    rw [(drained enough_first).1, (drained enough_second).1,
      Asset.readBlocks_of_readsToEnd reads_first, Asset.readBlocks_of_readsToEnd reads_second]
    exact ⟨rfl, rfl⟩
  · intro size calls enough
    rw [(drained enough).1]
    by_cases reads : (asset.withMaxKeys size).ReadsToEnd
        (bucket.rolledUp asset.keyPrefix asset.delimiter).entries
    · rw [Asset.readBlocks_of_readsToEnd reads]
      exact ⟨iff_of_true rfl reads, absurd reads, List.prefix_rfl⟩
    · obtain ⟨⟨others, failed⟩, first_keys⟩ := Asset.readBlocks_of_not_readsToEnd reads
      rw [failed]
      exact ⟨iff_of_false (by simp) reads, fun _ => ⟨others, rfl⟩, first_keys⟩

/-- A bucket whose folders and objects alternate. -/
def alternating : Bucket :=
  ((Bucket.ofKeys "b" ["b/1", "d/1"]).put "a" ⟨none, none, [120]⟩).put "ca" ⟨none, none, [120]⟩

theorem drain_same_for_page_sizes_alternating :
    alternating.IsStable ∧ alternating.disturbance.listing = none ∧
      ∃ entries, alternating.ListsAs letters.keyPrefix letters.delimiter entries ∧
        (letters.withMaxKeys 2).ReadsToEnd entries ∧ (letters.withMaxKeys 4).ReadsToEnd entries ∧
        drain alternating (letters.withMaxKeys 2) 2 =
          drain alternating (letters.withMaxKeys 4) 1 ∧
        drain alternating (letters.withMaxKeys 2) 2 = ⟨["a", "ca"], .done, .start⟩ ∧
        ¬(letters.withMaxKeys 3).ReadsToEnd entries ∧
        (drain alternating (letters.withMaxKeys 3) 2).ending ≠ .done := by
  have stable : alternating.IsStable := by decide +kernel
  have rolled : (alternating.rolledUp letters.keyPrefix letters.delimiter).entries =
      [("a", .object 1), ("b/", .folder), ("ca", .object 1), ("d/", .folder)] := by
    decide +kernel
  obtain ⟨entries, lists, same, law⟩ := drain_same_for_page_sizes stable rfl letters
  obtain rfl := (lists.eq (alternating.listsAs_rolledUp _ _)).trans rolled
  have reads_two : (letters.withMaxKeys 2).ReadsToEnd
      [("a", .object 1), ("b/", .folder), ("ca", .object 1), ("d/", .folder)] := by
    decide +kernel
  have reads_four : (letters.withMaxKeys 4).ReadsToEnd
      [("a", .object 1), ("b/", .folder), ("ca", .object 1), ("d/", .folder)] := by
    decide +kernel
  have stops_three : ¬(letters.withMaxKeys 3).ReadsToEnd
      [("a", .object 1), ("b/", .folder), ("ca", .object 1), ("d/", .folder)] := by
    decide +kernel
  obtain ⟨equal, value⟩ := same 2 4 reads_two reads_four 2 (by decide) 1 (by decide)
  have keys : letters.keysOf
      [("a", .object 1), ("b/", .folder), ("ca", .object 1), ("d/", .folder)] = ["a", "ca"] := by
    decide +kernel
  rw [keys] at value
  exact ⟨stable, rfl, _, lists, reads_two, reads_four, equal, value, stops_three,
    fun done => stops_three ((law 3 2 (by decide)).1.mp done)⟩

/-- A bucket of a folder and an object after it. -/
def folderFirst : Bucket :=
  ((Bucket.empty "b").put "a/1" ⟨none, none, [120]⟩).put "b" ⟨none, none, [120]⟩

/-- The bucket has an object for the asset, but a page of one entry does not reach it. -/
theorem page_size_changes_drain :
    folderFirst.IsStable ∧ folderFirst.disturbance.listing = none ∧
      (∃ object ∈ folderFirst.listed,
        Represents (everything "all" "" 1000).keyPrefix (everything "all" "" 1000).delimiter
          object ("b", .object 1)) ∧
      drain folderFirst ((everything "all" "" 1000).withMaxKeys 1) 2 =
        ⟨[], .failed (.page "all" .file .noContents (some ["a/"])), .start⟩ ∧
      drain folderFirst ((everything "all" "" 1000).withMaxKeys 2) 2 = ⟨["b"], .done, .start⟩ := by
  have listed_as : rollUp (everything "all" "" 1000).keyPrefix (everything "all" "" 1000).delimiter
      ⟨"b", 1⟩ = some ("b", .object 1) := by
    decide +kernel
  exact ⟨by decide +kernel, rfl, ⟨⟨"b", 1⟩, by decide +kernel, represents_of_rollUp listed_as⟩,
    rfl, rfl⟩

end Walk
end BucketCatalog
