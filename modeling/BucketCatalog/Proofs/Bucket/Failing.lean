import BucketCatalog.Proofs.Bucket

/-!
# Listings that fail

A bucket whose listings end with an error after some objects never answers with less than it has.
What a call reads before it stops decides its page, whatever is to come, so that a call either
reaches the error or answers as the bucket without errors does.  It reaches the error exactly if the
entries that are left of those objects fit on the page with at most one to spare.  With one to spare
the page is determined, and lost: the call looks for yet another entry before it stops.
-/

namespace BucketCatalog

open Listing

namespace Bucket

/-- The bucket with other errors of its listings. -/
def listsWith (bucket : Bucket) (error : Option (StorageError × Nat)) : Bucket :=
  { bucket with disturbance := { bucket.disturbance with listing := error } }

variable {bucket : Bucket} {request : Request}

/-- The objects that are delivered before an error are the first of those that are without it. -/
theorem feed_of_failing (bucket : Bucket) (error : StorageError) (count : Nat) (keyPrefix : String)
    (token : Option String) :
    ∃ delivered rest,
      (bucket.listsWith (some (error, count))).feed keyPrefix token =
          ⟨delivered, some error.failure⟩ ∧
        (bucket.listsWith none).feed keyPrefix token = ⟨delivered ++ rest, none⟩ := by
  let below := bucket.listed.filter fun object => StoredPath.isBelow (basePath keyPrefix) object.key
  refine ⟨(below.take count).filter fun object => isAfterOffset token object.key,
    (below.drop count).filter fun object => isAfterOffset token object.key, rfl, ?_⟩
  rw [← List.filter_append, List.take_append_drop]
  rfl

theorem list_of_other (other : request.bucket ≠ bucket.name) :
    bucket.list request = .error (.otherBucket request.bucket bucket.name) :=
  if_neg other

/--
A call to a bucket whose listings end with an error after a number of objects is answered with the
error, or exactly as it would be without one, whatever it asks for.  It is answered with the error
if the bucket is the one that it asks for, and if the objects before the error are listed as no more
entries past the token than a page holds and one.
-/
theorem list_of_failing (bucket : Bucket) (error : StorageError) (count : Nat)
    (request : Request) :
    (bucket.listsWith (some (error, count))).list request =
      if request.bucket = bucket.name ∧
          ((bucket.listsWith (some (error, count))).remaining request).length ≤
            max 1 request.maxKeys.toNat + 1 then
        .error error.failure
      else (bucket.listsWith none).list request := by
  rw [← Request.pageSize]
  let failing := bucket.listsWith (some (error, count))
  let whole := bucket.listsWith none
  by_cases own : request.bucket = bucket.name
  · have own_failing : request.bucket = failing.name := own
    have own_whole : request.bucket = whole.name := own
    obtain ⟨delivered, rest, failing_feed, whole_feed⟩ :=
      bucket.feed_of_failing error count request.keyPrefix request.token
    have ascending : Ascending delivered := by
      have sublist := failing.feed_sublist request.keyPrefix request.token
      rw [failing_feed] at sublist
      exact failing.listed_ascending.sublist sublist
    have entries_eq := Feed.entries_of_failure ascending error.failure rest
      { keyPrefix := request.keyPrefix
        delimiter := request.delimiter
        after := request.token
        limit := request.pageSize + 1 }
    simp only [not_isPassed] at entries_eq
    rw [remaining, list, if_pos own_failing, list, if_pos own_whole, failing_feed, whole_feed]
    simp only [own, true_and, entries_eq]
    split
    · rfl
    · rfl
  · have other_failing : request.bucket ≠ failing.name := own
    have other_whole : request.bucket ≠ whole.name := own
    rw [if_neg fun both => own both.1, list_of_other other_failing, list_of_other other_whole]
    rfl

/-- The third object shows that the page is full, so that the error after it is not reached. -/
example :
    ((ofKeys "b" ["x", "y", "z"]).listsWith (some (.notImplemented, 3))).list
        { Request.ofPrefix "b" "" with maxKeys := 1 } =
      .ok ⟨some [⟨"x", 0⟩], none, true, some "x"⟩ := by
  rfl

/-- What is left of the objects before an error comes first in what is left of all. -/
theorem remaining_prefix_of_failing (bucket : Bucket) (error : StorageError) (count : Nat)
    (request : Request) :
    (bucket.listsWith (some (error, count))).remaining request <+:
      (bucket.listsWith none).remaining request := by
  let bounds : Bounds :=
    { keyPrefix := request.keyPrefix
      delimiter := request.delimiter
      after := request.token
      limit := 0 }
  obtain ⟨delivered, rest, failing_feed, whole_feed⟩ :=
    bucket.feed_of_failing error count request.keyPrefix request.token
  have ascending : Ascending (delivered ++ rest) := by
    have sublist := (bucket.listsWith none).feed_sublist request.keyPrefix request.token
    rw [whole_feed] at sublist
    exact (bucket.listsWith none).listed_ascending.sublist sublist
  have ascending_delivered : Ascending delivered := (List.pairwise_append.mp ascending).1
  have longer := @entries_prefix_gatherAll_append bounds delivered rest ascending
  rw [entries_gatherAll ascending, entries_gatherAll ascending_delivered] at longer
  simp only [not_isPassed] at longer
  rw [remaining, remaining, failing_feed, whole_feed]
  exact longer

/--
One entry more than a page holds determines the page: once the objects before an error are listed as
that many entries past the token, a call over the bucket without the error answers the page of the
first of them.  Over the bucket with the error the call is answered with that page exactly if those
objects are listed as yet another entry; if not, it reads on until it meets the error, however many
objects come after the one that determined the page.
-/
theorem determined_page_is_answered (bucket : Bucket) (error : StorageError) (count : Nat)
    {request : Request} (own : request.bucket = bucket.name)
    (determined : max 1 request.maxKeys.toNat + 1 ≤
      ((bucket.listsWith (some (error, count))).remaining request).length) :
    (bucket.listsWith none).list request =
        .ok (.ofBlock (((bucket.listsWith (some (error, count))).remaining request).take
          (max 1 request.maxKeys.toNat)) true) ∧
      (bucket.listsWith (some (error, count))).list request =
        if ((bucket.listsWith (some (error, count))).remaining request).length =
            max 1 request.maxKeys.toNat + 1 then .error error.failure
        else (bucket.listsWith none).list request := by
  rw [← Request.pageSize] at determined ⊢
  let failing := bucket.listsWith (some (error, count))
  let whole := bucket.listsWith none
  have own_failing : request.bucket = failing.name := own
  have own_whole : request.bucket = whole.name := own
  have same_block : (whole.remaining request).take (request.pageSize + 1) =
      (failing.remaining request).take (request.pageSize + 1) := by
    obtain ⟨rest, split⟩ := bucket.remaining_prefix_of_failing error count request
    rw [← split, List.take_append_of_le_length determined]
  have answer : whole.list request =
      .ok (.ofEntries (failing.remaining request) request.pageSize) := by
    rw [list_eq own_whole rfl, ← Page.ofEntries_take, same_block, Page.ofEntries_take]
  have more : decide (request.pageSize < (failing.remaining request).length) = true :=
    decide_eq_true determined
  refine ⟨by rw [answer, ← Page.ofBlock_take, more], ?_⟩
  rw [answer, list_of_disturbed own_failing rfl]
  exact if_congr (Nat.le_antisymm_iff.trans (and_iff_left determined)).symm rfl rfl

/-- A bucket of three folders, the second with two objects. -/
def threeFolders : Bucket :=
  ofKeys "b" ["a/1", "b/1", "b/2", "c/1"]

/-- A request for a page of one entry. -/
def onePerPage : Request :=
  { Request.ofPrefix "b" "" with maxKeys := 1 }

/-- The third folder lets the call stop before an error after four objects. -/
theorem determined_page_is_answered_three_folders :
    onePerPage.bucket = threeFolders.name ∧
      max 1 onePerPage.maxKeys.toNat + 1 ≤
        ((threeFolders.listsWith (some (.notImplemented, 4))).remaining onePerPage).length ∧
      (threeFolders.listsWith (some (.notImplemented, 4))).list onePerPage =
        .ok ⟨none, some ["a/"], true, some "a/"⟩ := by
  have left : (threeFolders.listsWith (some (.notImplemented, 4))).remaining onePerPage =
      [("a/", .folder), ("b/", .folder), ("c/", .folder)] := by
    decide +kernel
  have determined : max 1 onePerPage.maxKeys.toNat + 1 ≤
      ((threeFolders.listsWith (some (.notImplemented, 4))).remaining onePerPage).length := by
    rw [left]
    decide
  obtain ⟨whole, failing⟩ :=
    determined_page_is_answered threeFolders .notImplemented 4 rfl determined
  refine ⟨rfl, determined, ?_⟩
  rw [failing, whole, left]
  rfl

/-- Two folders determine the page of one, but an error after the three objects in them is met. -/
theorem determined_page_is_lost :
    onePerPage.bucket = threeFolders.name ∧
      (threeFolders.listsWith (some (.notImplemented, 3))).remaining onePerPage =
        [("a/", .folder), ("b/", .folder)] ∧
      max 1 onePerPage.maxKeys.toNat + 1 = 2 ∧
      (threeFolders.listsWith none).list onePerPage =
        .ok ⟨none, some ["a/"], true, some "a/"⟩ ∧
      (threeFolders.listsWith (some (.notImplemented, 3))).list onePerPage =
        .error StorageError.notImplemented.failure := by
  refine ⟨rfl, by decide +kernel, rfl, by decide +kernel, ?_⟩
  rfl

end Bucket
end BucketCatalog
