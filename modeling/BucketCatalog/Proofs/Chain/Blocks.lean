import BucketCatalog.Proofs.Chain

/-!
# Chains over an unchanged bucket

The pages of a chain are the consecutive blocks of the entries in byte order.  The induction is on
the calls that are allowed; what carries it is that the entries left after the token of a page are
those left before it without the block of the page.
-/

namespace BucketCatalog

open Listing

namespace Listing

/-- The number of blocks of a size that entries fill; there is at least one. -/
def blockCount (entries : List (String × Entry)) (size : Nat) : Nat :=
  max 1 ((entries.length + size - 1) / size)

/-- The pages of the consecutive blocks of entries. -/
def blockPages (entries : List (String × Entry)) (size : Nat) : List Page :=
  (List.range (blockCount entries size)).map fun index =>
    .ofBlock ((entries.drop (index * size)).take size) ((index + 1) * size < entries.length)

variable {entries : List (String × Entry)} {size : Nat}

theorem blockCount_pos (entries : List (String × Entry)) (size : Nat) : 0 < blockCount entries size :=
  Nat.lt_of_lt_of_le Nat.zero_lt_one (Nat.le_max_left _ _)

theorem blockCount_of_fits (positive : 0 < size) (fits : entries.length ≤ size) :
    blockCount entries size = 1 := by
  have few : (entries.length + size - 1) / size ≤ 1 := by
    rw [Nat.div_le_iff_le_mul_add_pred positive]
    omega
  rw [blockCount, max_eq_left few]

theorem blockCount_of_more (positive : 0 < size) (more : size < entries.length) :
    blockCount entries size = blockCount (entries.drop size) size + 1 := by
  have rest : 1 ≤ (entries.length - size + size - 1) / size := by
    rw [Nat.le_div_iff_mul_le positive]
    omega
  have whole : (entries.length + size - 1) / size =
      (entries.length - size + size - 1) / size + 1 := by
    rw [← Nat.add_div_right _ positive]
    congr 1
    omega
  rw [blockCount, blockCount, List.length_drop, max_eq_right rest, whole, max_eq_right]
  omega

/-- What is made of each block is made of the first one and of those of the rest. -/
theorem map_range_blockCount {α : Type} (positive : 0 < size) (more : size < entries.length)
    (make : Nat → α) :
    (List.range (blockCount entries size)).map make =
      make 0 :: (List.range (blockCount (entries.drop size) size)).map fun index =>
        make (index + 1) := by
  rw [blockCount_of_more positive more, List.range_succ_eq_map, List.map_cons, List.map_map]
  rfl

theorem length_blockPages : (blockPages entries size).length = blockCount entries size := by
  simp [blockPages]

/-- Entries that fit on one page make that page. -/
theorem blockPages_of_fits (positive : 0 < size) (fits : entries.length ≤ size) :
    blockPages entries size = [.ofEntries entries size] := by
  rw [blockPages, blockCount_of_fits positive fits, ← Page.ofBlock_take]
  simp

/-- Other entries make the page of the first block and the pages of the rest. -/
theorem blockPages_of_more (positive : 0 < size) (more : size < entries.length) :
    blockPages entries size = .ofEntries entries size :: blockPages (entries.drop size) size := by
  rw [blockPages, map_range_blockCount positive more, blockPages, ← Page.ofBlock_take]
  congr 1
  · simp
  · refine List.map_congr_left fun index _ => ?_
    have place : (index + 1) * size = size + index * size := by
      rw [Nat.add_mul, Nat.one_mul, Nat.add_comm]
    have later : (index + 1 + 1) * size < entries.length ↔
        (index + 1) * size < (entries.drop size).length := by
      rw [List.length_drop, Nat.add_mul (index + 1)]
      omega
    simp only [List.drop_drop, later, place]

end Listing

namespace Bucket

variable {bucket : Bucket} {request : Request}

/-- After the block of a page the rest of what was left is left. -/
theorem remaining_after_block (stable : bucket.IsStable)
    (undisturbed : bucket.disturbance.listing = none) (start : IsStart request.token)
    {front : List (String × Entry)} {last : String × Entry}
    (block : (bucket.remaining request).take request.pageSize = front ++ [last]) :
    bucket.remaining { request with token := some last.1 } =
      (bucket.remaining request).drop request.pageSize := by
  have next_start : IsStart (some last.1) := isStart_of_mem_remaining stable (last_mem block)
  have last_left : isLeft request.token last.1 := (mem_remaining.mp (last_mem block)).2
  rw [← filter_isLeft_eq_drop (bucket.remaining_ascending request) block,
    remaining_eq stable undisturbed start, remaining_eq stable undisturbed next_start,
    List.filter_filter]
  refine List.filter_congr fun listed _ => ?_
  cases later : isLeft (some last.1) listed.1 with
  | false => rfl
  | true => simp [isLeft_trans last_left later]

theorem chain_eq (stable : bucket.IsStable) (undisturbed : bucket.disturbance.listing = none)
    (own : request.bucket = bucket.name) (start : IsStart request.token) (calls : Nat) :
    Bucket.remote.chain calls request bucket =
      (⟨(blockPages (bucket.remaining request) request.pageSize).take calls,
        if (blockPages (bucket.remaining request) request.pageSize).length ≤ calls then .complete
        else .unfinished⟩, bucket) := by
  induction calls generalizing request with
  | zero =>
      have some_page : (blockPages (bucket.remaining request) request.pageSize).length ≠ 0 := by
        rw [length_blockPages]
        exact Nat.ne_of_gt (blockCount_pos _ _)
      simp [Remote.chain, some_page]
  | succ calls ih =>
      have positive := request.pageSize_pos
      have answer : Bucket.remote.list request bucket =
          (.ok (.ofEntries (bucket.remaining request) request.pageSize), bucket) := by
        simp only [remote, list_eq own undisturbed]
      obtain ⟨fits, ended⟩ | ⟨front, last, more, block, went_on⟩ :=
        Remote.chain_of_answer calls answer
      · rw [ended, blockPages_of_fits positive fits]
        simp
      · have tail := @ih { request with token := some last.1 } own
          (isStart_of_mem_remaining stable (last_mem block))
        have same_size : ({ request with token := some last.1 } : Request).pageSize =
            request.pageSize := rfl
        rw [remaining_after_block stable undisturbed start block, same_size] at tail
        rw [went_on, tail, blockPages_of_more positive more]
        simp only [Chain.prepend, List.take_succ_cons, List.length_cons, Nat.add_le_add_iff_right]

/--
The chain of a listing without a token hands out the consecutive blocks of the entries that the
bucket's objects are listed as, in byte order and each once.  A block has as many entries as are
asked for, but at least one.
-/
theorem chain_eq_blocks (stable : bucket.IsStable) (undisturbed : bucket.disturbance.listing = none)
    (own : request.bucket = bucket.name) (first : request.token = none) :
    ∃ entries, bucket.ListsAs request.keyPrefix request.delimiter entries ∧
      ∀ calls,
        Bucket.remote.chain calls request bucket =
          (⟨(blockPages entries (max 1 request.maxKeys.toNat)).take calls,
            if blockCount entries (max 1 request.maxKeys.toNat) ≤ calls then .complete
            else .unfinished⟩, bucket) := by
  have start : IsStart request.token := by simp [IsStart, first]
  have whole : bucket.remaining request =
      (bucket.rolledUp request.keyPrefix request.delimiter).entries := by
    simp [remaining_eq stable undisturbed start, first]
  refine ⟨_, bucket.listsAs_rolledUp request.keyPrefix request.delimiter, fun calls => ?_⟩
  rw [chain_eq stable undisturbed own start, length_blockPages, whole]
  rfl

/-- A bucket whose objects and folders alternate in byte order. -/
def nested : Bucket :=
  ofKeys "b" ["d/a/1", "d/a/2", "d/a-b", "d/b/1", "d/c"]

/-- The first page of two entries under a folder. -/
def nestedRequest : Request :=
  { Request.ofPrefix "b" "d/" with maxKeys := 2 }

theorem chain_eq_blocks_nested :
    nested.IsStable ∧ nested.disturbance.listing = none ∧ nestedRequest.bucket = nested.name ∧
      nestedRequest.token = none ∧
      nested.ListsAs "d/" "/"
        [("d/a-b", .object 0), ("d/a/", .folder), ("d/b/", .folder), ("d/c", .object 0)] ∧
      Bucket.remote.chain 1 nestedRequest nested =
        (⟨[⟨some [⟨"d/a-b", 0⟩], some ["d/a/"], true, some "d/a/"⟩], .unfinished⟩, nested) ∧
      Bucket.remote.chain 2 nestedRequest nested =
        (⟨[⟨some [⟨"d/a-b", 0⟩], some ["d/a/"], true, some "d/a/"⟩,
            ⟨some [⟨"d/c", 0⟩], some ["d/b/"], false, none⟩], .complete⟩, nested) := by
  have stable : nested.IsStable := by decide +kernel
  have rolled : (nested.rolledUp nestedRequest.keyPrefix nestedRequest.delimiter).entries =
      [("d/a-b", .object 0), ("d/a/", .folder), ("d/b/", .folder), ("d/c", .object 0)] := by
    decide +kernel
  obtain ⟨entries, lists, pages⟩ := @chain_eq_blocks nested nestedRequest stable rfl rfl rfl
  obtain rfl := (lists.eq (nested.listsAs_rolledUp _ _)).trans rolled
  exact ⟨stable, rfl, rfl, rfl, lists, pages 1, pages 2⟩

end Bucket
end BucketCatalog
