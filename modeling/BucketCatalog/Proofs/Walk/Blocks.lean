import BucketCatalog.Proofs.Asset
import BucketCatalog.Proofs.Chain.Blocks
import BucketCatalog.Proofs.Walk.Draining
import BucketCatalog.Proofs.Walk.Page

/-!
# Assets of an unchanged bucket

A walk over a bucket of stable paths reads the consecutive blocks of the entries that the objects
are listed as, up to the first block without an entry of the asset's kind.  `readBlocks` says what a
walk makes of blocks without any page or store.
-/

namespace BucketCatalog

open Listing

namespace Listing

variable {entries : List (String × Entry)} {size : Nat}

/-- The consecutive blocks of entries; there is at least one. -/
def blocks (entries : List (String × Entry)) (size : Nat) : List (List (String × Entry)) :=
  (List.range (blockCount entries size)).map fun index => (entries.drop (index * size)).take size

theorem length_blocks : (blocks entries size).length = blockCount entries size := by
  simp [blocks]

theorem blocks_of_fits (positive : 0 < size) (fits : entries.length ≤ size) :
    blocks entries size = [entries] := by
  rw [blocks, blockCount_of_fits positive fits]
  simp [List.take_of_length_le fits]

theorem blocks_of_more (positive : 0 < size) (more : size < entries.length) :
    blocks entries size = entries.take size :: blocks (entries.drop size) size := by
  rw [blocks, map_range_blockCount positive more, blocks, Nat.zero_mul, List.drop_zero]
  congr 1
  refine List.map_congr_left fun index _ => ?_
  rw [List.drop_drop, Nat.succ_mul, Nat.add_comm]

theorem exists_blocks_eq_cons (positive : 0 < size) (entries : List (String × Entry)) :
    ∃ rest, blocks entries size = entries.take size :: rest := by
  rcases Nat.lt_or_ge size entries.length with more | fits
  · exact ⟨_, blocks_of_more positive more⟩
  · exact ⟨[], by rw [blocks_of_fits positive fits, List.take_of_length_le fits]⟩

theorem flatten_blocks (positive : 0 < size) (entries : List (String × Entry)) :
    (blocks entries size).flatten = entries := by
  induction length : entries.length using Nat.strong_induction_on generalizing entries with
  | _ count ih =>
      rcases Nat.lt_or_ge size entries.length with more | fits
      · have shorter : (entries.drop size).length < count := by
          rw [List.length_drop]
          omega
        rw [blocks_of_more positive more, List.flatten_cons, ih _ shorter _ rfl,
          List.take_append_drop]
      · rw [blocks_of_fits positive fits, List.flatten_cons, List.flatten_nil, List.append_nil]

end Listing

namespace Asset

/-- What a pass from a token on makes of the blocks of what is left. -/
def readBlocks (asset : Asset) : Option String → List (List (String × Entry)) → Walked String
  | _, [] => ⟨[], .done, .start⟩
  | token, block :: blocks =>
      if asset.isGood block then
        (asset.readBlocks (block.getLast?.map Prod.fst) blocks).prepend (asset.keysOf block)
      else ⟨[], .failed (asset.faultOf block), ⟨token⟩⟩

/-- The number of blocks that a pass asks for. -/
def blocksRead (asset : Asset) : List (List (String × Entry)) → Nat
  | [] => 0
  | block :: blocks => if asset.isGood block then asset.blocksRead blocks + 1 else 1

variable {asset : Asset} {block : List (String × Entry)} {token : Option String}
  {before after : List (List (String × Entry))}

theorem readBlocks_of_good {blocks : List (List (String × Entry))}
    (good : ∀ block ∈ blocks, asset.isGood block) :
    asset.readBlocks token blocks = ⟨blocks.flatMap asset.keysOf, .done, .start⟩ ∧
      asset.blocksRead blocks = blocks.length := by
  induction blocks generalizing token with
  | nil => exact ⟨rfl, rfl⟩
  | cons block blocks ih =>
      obtain ⟨good_first, good_later⟩ := List.forall_mem_cons.mp good
      obtain ⟨read, count⟩ := @ih (block.getLast?.map Prod.fst) good_later
      rw [readBlocks, if_pos good_first, read, blocksRead, if_pos good_first, count]
      exact ⟨rfl, rfl⟩

/-- A pass ends with the first block that is not good, and its cursor stays there. -/
theorem readBlocks_of_bad (good : ∀ block ∈ before, asset.isGood block)
    (bad : asset.isGood block = false) :
    asset.readBlocks token (before ++ block :: after) =
        ⟨before.flatMap asset.keysOf, .failed (asset.faultOf block),
          ⟨before.getLast?.elim token fun last => last.getLast?.map Prod.fst⟩⟩ ∧
      asset.blocksRead (before ++ block :: after) = before.length + 1 := by
  induction before generalizing token with
  | nil => simp [readBlocks, blocksRead, bad]
  | cons first before ih =>
      obtain ⟨good_first, good_later⟩ := List.forall_mem_cons.mp good
      obtain ⟨read, count⟩ := @ih (first.getLast?.map Prod.fst) good_later
      rw [List.cons_append, readBlocks, if_pos good_first, read, blocksRead, if_pos good_first,
        count, List.getLast?_cons]
      refine ⟨?_, rfl⟩
      cases before.getLast? with
      | none => rfl
      | some last => rfl

end Asset

namespace Walk

/-- A pass from the beginning of a bucket that hands out everything. -/
def drain (bucket : Bucket) (asset : Asset) (calls : Nat) : Walked String :=
  (run Bucket.remote bucket.name asset key calls none Cursor.start.token bucket).1

/-- The listing calls of such a pass. -/
def drainCalls (bucket : Bucket) (asset : Asset) (calls : Nat) : List Exchange :=
  (run Bucket.remote.transcribed bucket.name asset key calls none Cursor.start.token
    (.ofStore bucket)).2.exchanges

variable {bucket : Bucket} {asset : Asset} {token : Option String} {calls : Nat}
  {entries : List (String × Entry)}

theorem list_asset (undisturbed : bucket.disturbance.listing = none) (asset : Asset)
    (token : Option String) :
    Bucket.remote.list (asset.request bucket.name token) bucket =
      (.ok (.ofEntries (bucket.remaining (asset.request bucket.name token)) asset.pageSize),
        bucket) := by
  have own : (asset.request bucket.name token).bucket = bucket.name := rfl
  simp only [Bucket.remote, Bucket.list_eq own undisturbed]
  rfl

/-- A call over an unchanged bucket meets a block that is not good, ends with the last block, or
goes on after the last entry of its block. -/
theorem run_block (undisturbed : bucket.disturbance.listing = none)
    (left : bucket.remaining (asset.request bucket.name token) = entries)
    (exchanges : List Exchange) (calls : Nat) :
    ∃ exchange,
      (asset.isGood (entries.take asset.pageSize) = false ∧
        run Bucket.remote.transcribed bucket.name asset key (calls + 1) none token
            ⟨bucket, exchanges⟩ =
          (⟨[], .failed (asset.faultOf (entries.take asset.pageSize)), ⟨token⟩⟩,
            ⟨bucket, exchanges ++ [exchange]⟩)) ∨
      (asset.isGood (entries.take asset.pageSize) ∧ entries.length ≤ asset.pageSize ∧
        run Bucket.remote.transcribed bucket.name asset key (calls + 1) none token
            ⟨bucket, exchanges⟩ =
          (⟨asset.keysOf (entries.take asset.pageSize), .done, .start⟩,
            ⟨bucket, exchanges ++ [exchange]⟩)) ∨
      ∃ front last, asset.isGood (entries.take asset.pageSize) ∧ asset.pageSize < entries.length ∧
        entries.take asset.pageSize = front ++ [last] ∧
        run Bucket.remote.transcribed bucket.name asset key (calls + 1) none token
            ⟨bucket, exchanges⟩ =
          ((run Bucket.remote.transcribed bucket.name asset key calls none (some last.1)
              ⟨bucket, exchanges ++ [exchange]⟩).1.prepend
                (asset.keysOf (entries.take asset.pageSize)),
            (run Bucket.remote.transcribed bucket.name asset key calls none (some last.1)
              ⟨bucket, exchanges ++ [exchange]⟩).2) := by
  have answer := list_asset undisturbed asset token
  rw [left] at answer
  have written := @Remote.list_transcribed _ _ _ ⟨bucket, exchanges⟩ _ _ answer
  refine ⟨⟨asset.request bucket.name token, .ok (.ofEntries entries asset.pageSize)⟩, ?_⟩
  obtain ⟨fault, refused, ended⟩ | ⟨page, page_eq, last, ended⟩ |
    ⟨page, later, page_eq, turns, went_on⟩ := run_of_answer written calls
  · obtain ⟨bad, rfl⟩ := Asset.refuses_ofEntries asset.pageSize_pos refused
    exact .inl ⟨bad, ended⟩
  · obtain ⟨good, fits⟩ := Asset.isLast_ofEntries last
    obtain rfl := Except.ok.inj page_eq
    rw [Asset.survivors_ofEntries] at ended
    exact .inr (.inl ⟨good, fits, ended⟩)
  · obtain rfl := Except.ok.inj page_eq
    obtain ⟨good, more, front, last, block, rfl⟩ := Asset.turns_ofEntries turns
    rw [Asset.survivors_ofEntries] at went_on
    exact .inr (.inr ⟨front, last, good, more, block, went_on⟩)

/-- A walk from the start of a stable path on reads the blocks of what is left there. -/
theorem run_blocks (stable : bucket.IsStable) (undisturbed : bucket.disturbance.listing = none)
    (start : Bucket.IsStart token)
    (left : bucket.remaining (asset.request bucket.name token) = entries)
    (enough : blockCount entries asset.pageSize ≤ calls) (exchanges : List Exchange) :
    (run Bucket.remote.transcribed bucket.name asset key calls none token
        ⟨bucket, exchanges⟩).1 = asset.readBlocks token (blocks entries asset.pageSize) ∧
      (run Bucket.remote.transcribed bucket.name asset key calls none token
          ⟨bucket, exchanges⟩).2.exchanges.length =
        exchanges.length + asset.blocksRead (blocks entries asset.pageSize) := by
  induction calls generalizing token entries exchanges with
  | zero => simp [blockCount] at enough
  | succ calls ih =>
      have positive := asset.pageSize_pos
      obtain ⟨exchange, ⟨bad, ended⟩ | ⟨good, fits, ended⟩ |
        ⟨front, last, good, more, block, went_on⟩⟩ := run_block undisturbed left exchanges calls
      · obtain ⟨rest, cut⟩ := exists_blocks_eq_cons positive entries
        rw [ended, cut, Asset.readBlocks, Asset.blocksRead]
        simp [bad]
      · rw [ended, blocks_of_fits positive fits]
        rw [List.take_of_length_le fits] at good ⊢
        simp [Asset.readBlocks, Asset.blocksRead, good, Walked.prepend]
      · have block_left : (bucket.remaining (asset.request bucket.name token)).take
            (asset.request bucket.name token).pageSize = front ++ [last] := by
          rw [left, Asset.pageSize_request, block]
        -- What is left after the last entry of the block are the later blocks.
        have left_after : bucket.remaining (asset.request bucket.name (some last.1)) =
            entries.drop asset.pageSize := by
          rw [← left, ← Asset.pageSize_request asset bucket.name token]
          exact @Bucket.remaining_after_block bucket (asset.request bucket.name token) stable
            undisturbed start front last block_left
        have start_after := Bucket.isStart_of_mem_remaining stable (last_mem block_left)
        have enough_after : blockCount (entries.drop asset.pageSize) asset.pageSize ≤ calls := by
          rw [blockCount_of_more positive more] at enough
          exact Nat.le_of_succ_le_succ enough
        obtain ⟨walked, counted⟩ := ih start_after left_after enough_after (exchanges ++ [exchange])
        rw [went_on, walked, counted, blocks_of_more positive more, Asset.readBlocks, if_pos good,
          Asset.blocksRead, if_pos good, block, List.length_append, List.length_singleton]
        refine ⟨by simp, ?_⟩
        omega

theorem drain_blocks (stable : bucket.IsStable) (undisturbed : bucket.disturbance.listing = none)
    (lists : bucket.ListsAs asset.keyPrefix asset.delimiter entries)
    (enough : blockCount entries asset.pageSize ≤ calls) :
    drain bucket asset calls = asset.readBlocks none (blocks entries asset.pageSize) ∧
      (drainCalls bucket asset calls).length =
        asset.blocksRead (blocks entries asset.pageSize) := by
  have start : Bucket.IsStart Cursor.start.token := by rintro _ ⟨⟩
  have left : bucket.remaining (asset.request bucket.name Cursor.start.token) = entries := by
    have first : (asset.request bucket.name Cursor.start.token).token = none := rfl
    rw [Bucket.remaining_eq stable undisturbed start, first,
      lists.eq (bucket.listsAs_rolledUp asset.keyPrefix asset.delimiter)]
    exact List.filter_eq_self.mpr fun _ _ => rfl
  obtain ⟨walked, counted⟩ := run_blocks stable undisturbed start left enough []
  have same := (run_transcribed Bucket.remote bucket.name asset calls Cursor.start.token
    (.ofStore bucket)).1
  rw [Transcribed.ofStore] at same
  rw [drain, drainCalls, Transcribed.ofStore, ← same]
  exact ⟨walked, by simpa using counted⟩

/--
A pass over an unchanged bucket of stable paths hands out the keys of the blocks before the first
one without an entry of the asset's kind.  If there is none such, it ends normally after one call
for each block; otherwise it fails on that block, which it was one call to ask for, reports what the
block has instead, and leaves the cursor at the last entry of the block before.
-/
theorem drain_eq_blocks (stable : bucket.IsStable)
    (undisturbed : bucket.disturbance.listing = none) (asset : Asset) :
    ∃ entries, bucket.ListsAs asset.keyPrefix asset.delimiter entries ∧
      ∀ calls, blockCount entries asset.pageSize ≤ calls →
        ((∀ block ∈ blocks entries asset.pageSize, asset.isGood block) →
            drain bucket asset calls =
                ⟨(blocks entries asset.pageSize).flatMap asset.keysOf, .done, .start⟩ ∧
              (drainCalls bucket asset calls).length = blockCount entries asset.pageSize) ∧
          ∀ before block after, blocks entries asset.pageSize = before ++ block :: after →
            (∀ block ∈ before, asset.isGood block) → asset.isGood block = false →
            drain bucket asset calls =
                ⟨before.flatMap asset.keysOf,
                  .failed (.page asset.name asset.kind asset.missing
                    (collectionOf (asset.othersOf block))),
                  ⟨(before.getLast?.bind List.getLast?).map Prod.fst⟩⟩ ∧
              (drainCalls bucket asset calls).length = before.length + 1 := by
  have lists := bucket.listsAs_rolledUp asset.keyPrefix asset.delimiter
  refine ⟨_, lists, fun calls enough => ?_⟩
  obtain ⟨walked, counted⟩ := drain_blocks stable undisturbed lists enough
  rw [walked, counted]
  refine ⟨fun good => ?_, fun before block after cut good bad => ?_⟩
  · obtain ⟨read, count⟩ := @Asset.readBlocks_of_good asset none _ good
    rw [read, count, length_blocks]
    exact ⟨rfl, rfl⟩
  · obtain ⟨read, count⟩ := @Asset.readBlocks_of_bad asset block none before after good bad
    rw [cut, read, count, Asset.faultOf]
    refine ⟨?_, rfl⟩
    cases before.getLast? with
    | none => rfl
    | some last => rfl

/-- A bucket with a page of an object and a folder and a page of folders. -/
def foldersLast : Bucket :=
  (Bucket.ofKeys "b" ["b/1", "c/1", "d/1"]).put "a" ⟨none, none, [120]⟩

theorem drain_eq_blocks_folders_last :
    foldersLast.IsStable ∧ foldersLast.disturbance.listing = none ∧
      ∃ entries, foldersLast.ListsAs letters.keyPrefix letters.delimiter entries ∧
        blocks entries letters.pageSize =
          [[("a", .object 1), ("b/", .folder)], [("c/", .folder), ("d/", .folder)]] ∧
        drain foldersLast letters 2 =
          ⟨["a"], .failed (.page "letters" .file .noContents (some ["c/", "d/"])),
            .ofToken "b/"⟩ ∧
        (drainCalls foldersLast letters 2).length = 2 := by
  have stable : foldersLast.IsStable := by decide +kernel
  have rolled : (foldersLast.rolledUp letters.keyPrefix letters.delimiter).entries =
      [("a", .object 1), ("b/", .folder), ("c/", .folder), ("d/", .folder)] := by
    decide +kernel
  obtain ⟨entries, lists, law⟩ := drain_eq_blocks stable rfl letters
  have entries_eq := (lists.eq (foldersLast.listsAs_rolledUp _ _)).trans rolled
  have cut : blocks entries letters.pageSize =
      [[("a", .object 1), ("b/", .folder)], [("c/", .folder), ("d/", .folder)]] := by
    rw [entries_eq]
    decide +kernel
  have enough : blockCount entries letters.pageSize ≤ 2 := by
    rw [← length_blocks, cut]
    rfl
  obtain ⟨walked, counted⟩ := (law 2 enough).2 [_] _ [] cut (by decide) (by decide)
  exact ⟨stable, rfl, entries, lists, cut, walked, counted⟩

/-- An object at the empty path starts with the empty prefix and makes a block with an object, but
no page has it. -/
theorem drain_omits_empty_path :
    Bucket.rootOnly.IsStable ∧ Bucket.rootOnly.disturbance.listing = none ∧
      (∀ listed, listed ∈ [("", Entry.object 1)] ↔
        ∃ object, Bucket.rootOnly.Stores object ∧
          Represents (everything "all" "" 1000).keyPrefix (everything "all" "" 1000).delimiter
            object listed) ∧
      (∀ block ∈ blocks [("", .object 1)] (everything "all" "" 1000).pageSize,
        (everything "all" "" 1000).isGood block) ∧
      (everything "all" "" 1000).keysOf [("", .object 1)] = [""] ∧
      drain Bucket.rootOnly (everything "all" "" 1000) 1 =
        ⟨[], .failed (.page "all" .file .noContents none), .start⟩ := by
  have objects : Bucket.rootOnly.listed = [⟨"", 1⟩] := by decide +kernel
  have listed_as : rollUp (everything "all" "" 1000).keyPrefix (everything "all" "" 1000).delimiter
      ⟨"", 1⟩ = some ("", .object 1) := by
    decide +kernel
  refine ⟨by decide +kernel, rfl, fun listed => ?_, by decide +kernel, by decide +kernel, rfl⟩
  simp [← Bucket.mem_listed_iff, objects, ← rollUp_eq_some_iff, listed_as, eq_comm]

end Walk
end BucketCatalog
