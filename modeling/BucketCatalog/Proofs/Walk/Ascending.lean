import BucketCatalog.Proofs.Chain.Blocks
import BucketCatalog.Proofs.Walk.Draining
import BucketCatalog.Proofs.Walk.Page
import Mathlib.Data.List.Chain
import Mathlib.Data.List.Perm.Subperm

/-!
# Passes climb

Over an unchanged bucket a pass only ever climbs, whatever the bucket holds, however it is disturbed
and whatever token the pass starts with.  What bounds it is not what is left to read, which depends
on the path of the token, but everything that lies ahead of the token itself: each page that brings
another token takes at least as many entries from there as it holds.
-/

namespace BucketCatalog

open Listing

namespace Listing

theorem blockCount_le {first second : List (String × Entry)} {size : Nat}
    (shorter : first.length ≤ second.length) : blockCount first size ≤ blockCount second size := by
  have fewer : (first.length + size - 1) / size ≤ (second.length + size - 1) / size :=
    Nat.div_le_div_right (by omega)
  exact max_le_max_left 1 fewer

/-- Entries that leave room for a block under others are cut into fewer blocks. -/
theorem blockCount_lt {first second : List (String × Entry)} {size : Nat} (positive : 0 < size)
    (more : size < second.length) (shorter : first.length + size ≤ second.length) :
    blockCount first size < blockCount second size := by
  rw [blockCount_of_more positive more, Nat.lt_succ_iff]
  apply blockCount_le
  rw [List.length_drop]
  omega

/-- A block of entries up to a name and the entries past that name are different entries. -/
theorem length_filter_isLeft_add_le {entries block : List (String × Entry)} {last : String}
    (distinct : block.Nodup) (among : block ⊆ entries)
    (up_to : ∀ listed ∈ block, listed.1 ≤ last) :
    (entries.filter fun listed => isLeft (some last) listed.1).length + block.length ≤
      entries.length := by
  have passed : block ⊆ entries.filter fun listed => !isLeft (some last) listed.1 := by
    intro listed member
    have not_left : isLeft (some last) listed.1 = false := by
      rw [← Bool.not_eq_true, isLeft_some_iff]
      exact not_lt.mpr (up_to listed member)
    exact List.mem_filter.mpr ⟨among member, by simp [not_left]⟩
  have few := (List.subperm_of_subset distinct passed).length_le
  have parts := List.length_eq_length_filter_add (l := entries)
    fun listed => isLeft (some last) listed.1
  omega

end Listing

namespace Bucket

variable {bucket : Bucket} {request : Request} {page : Page} {later : String}

/-- Everything that the objects of a bucket are listed as past the token of a request, whether or
not the path of the token hides it. -/
def ahead (bucket : Bucket) (request : Request) : List (String × Entry) :=
  (Listing.rolledUp request.keyPrefix request.delimiter bucket.listed).entries.filter
    fun listed => isLeft request.token listed.1

theorem remaining_subset_ahead (bucket : Bucket) (request : Request) :
    bucket.remaining request ⊆ bucket.ahead request := by
  intro listed member
  obtain ⟨⟨object, fed, represents⟩, left⟩ := mem_remaining.mp member
  have stored := (bucket.feed_sublist request.keyPrefix request.token).subset fed
  rw [ahead, List.mem_filter, Listing.mem_rolledUp bucket.listed_ascending]
  exact ⟨⟨object, stored, represents⟩, left⟩

theorem ahead_later (left : isLeft request.token later) :
    bucket.ahead { request with token := some later } =
      (bucket.ahead request).filter fun listed => isLeft (some later) listed.1 := by
  rw [ahead, ahead, List.filter_filter]
  refine List.filter_congr fun listed _ => ?_
  cases past : isLeft (some later) listed.1 with
  | false => rfl
  | true => simp [isLeft_trans left past]

/-- The entries of a page lie past the token and under the prefix of the request. -/
theorem of_mem_remaining {listed : String × Entry} (member : listed ∈ bucket.remaining request) :
    isLeft request.token listed.1 ∧ request.keyPrefix.toList <+: listed.1.toList := by
  obtain ⟨⟨object, -, represents⟩, left⟩ := mem_remaining.mp member
  exact ⟨left, prefix_leads (rollUp_of_represents represents)⟩

theorem remaining_nodup (bucket : Bucket) (request : Request) :
    (bucket.remaining request).Nodup :=
  (bucket.remaining_ascending request).imp fun order same => order.ne (congrArg Prod.fst same)

/-- After the last entry of a page at least a page less lies ahead. -/
theorem length_ahead_after_block {front : List (String × Entry)} {last : String × Entry}
    (more : request.pageSize < (bucket.remaining request).length)
    (block : (bucket.remaining request).take request.pageSize = front ++ [last]) :
    request.pageSize < (bucket.ahead request).length ∧
      (bucket.ahead { request with token := some last.1 }).length + request.pageSize ≤
        (bucket.ahead request).length := by
  have distinct := bucket.remaining_nodup request
  have among := bucket.remaining_subset_ahead request
  have block_sublist := List.take_sublist request.pageSize (bucket.remaining request)
  have counted := length_filter_isLeft_add_le (distinct.sublist block_sublist)
    (fun listed member => among (block_sublist.subset member)) fun listed member =>
      name_le_last (bucket.remaining_ascending request) block member
  rw [List.length_take_of_le more.le] at counted
  rw [ahead_later (of_mem_remaining (last_mem block)).1]
  exact ⟨more.trans_le (List.subperm_of_subset distinct among).length_le, counted⟩

end Bucket

/-- The calls of a pass over an unchanged bucket, from a token on. -/
structure Bucket.IsClimbed (bucket : Bucket) (name : String) (asset : Asset)
    (token : Option String) (exchanges : List Exchange) : Prop where
  /-- Every call is one for the asset, and the bucket answers it. -/
  answered : ∀ exchange ∈ exchanges,
    asset.Asks name exchange.request.token exchange.request ∧
      exchange.answer = bucket.list exchange.request
  /-- The first call has the token that the pass starts with. -/
  starts : ∀ first ∈ exchanges.head?, first.request.token = token
  /-- Every other call has a token past the one before. -/
  rises : exchanges.IsChain fun earlier later =>
    ∃ text, later.request.token = some text ∧ isLeft earlier.request.token text
  /-- What is on a page is past the token of its call and starts with the prefix of the asset. -/
  pages : ∀ exchange ∈ exchanges, ∀ page, exchange.answer = .ok page → ∀ listed ∈ page.listed,
    isLeft exchange.request.token listed.1 ∧ asset.keyPrefix.toList <+: listed.1.toList

namespace Walk

variable {bucket : Bucket} {name : String} {asset : Asset} {token : Option String} {page : Page}

theorem isClimbed_nil : bucket.IsClimbed name asset token [] :=
  ⟨by simp, by simp, .nil, by simp⟩

theorem isClimbed_cons {later : Option String} {exchanges : List Exchange}
    (climbed : bucket.IsClimbed name asset later exchanges)
    (rises : exchanges ≠ [] → ∃ text, later = some text ∧ isLeft token text) :
    bucket.IsClimbed name asset token
      (⟨asset.request name token, bucket.list (asset.request name token)⟩ :: exchanges) where
  answered := List.forall_mem_cons.mpr ⟨⟨asset.asks_request name token, rfl⟩, climbed.answered⟩
  starts := by
    rintro _ ⟨⟩
    rfl
  rises := by
    refine List.isChain_cons.mpr ⟨fun first first_eq => ?_, climbed.rises⟩
    obtain ⟨text, later_eq, left⟩ := rises (by rintro rfl; simp at first_eq)
    exact ⟨text, (climbed.starts first first_eq).trans later_eq, left⟩
  pages := by
    refine List.forall_mem_cons.mpr ⟨fun page answer listed on_page => ?_, climbed.pages⟩
    obtain rfl := Bucket.page_of_list answer
    have block := (listed_ofEntries_perm _ _).mem_iff.mp on_page
    exact Bucket.of_mem_remaining (List.mem_of_mem_take block)

/-- The keys of a page ascend, past the token of the page and under the prefix of the asset. -/
theorem survivors_ascend (answered : bucket.list (asset.request name token) = .ok page) :
    (asset.survivors page).Pairwise (· < ·) ∧
      ∀ text ∈ asset.survivors page,
        isLeft token text ∧ asset.keyPrefix.toList <+: text.toList := by
  obtain rfl := Bucket.page_of_list answered
  let left := bucket.remaining (asset.request name token)
  have sublist := asset.survivors_sublist left asset.pageSize
  have block_ascends : ((left.take asset.pageSize).map Prod.fst).Pairwise (· < ·) :=
    List.pairwise_map.mpr ((bucket.remaining_ascending _).sublist (List.take_sublist _ _))
  refine ⟨block_ascends.sublist sublist, fun text member => ?_⟩
  obtain ⟨listed, block, rfl⟩ := List.mem_map.mp (sublist.subset member)
  exact Bucket.of_mem_remaining (List.mem_of_mem_take block)

/-- A page with more after it brings a token past its own, which no key of it is past, and at least
a page less lies ahead of that. -/
theorem turns_ascend {later : String}
    (answered : bucket.list (asset.request name token) = .ok page)
    (turns : asset.Turns page later) :
    isLeft token later ∧ (∀ text ∈ asset.survivors page, text ≤ later) ∧
      blockCount (bucket.ahead (asset.request name (some later))) asset.pageSize <
        blockCount (bucket.ahead (asset.request name token)) asset.pageSize := by
  obtain rfl := Bucket.page_of_list answered
  obtain ⟨-, more, front, last, block, rfl⟩ := Asset.turns_ofEntries turns
  obtain ⟨wide, shorter⟩ := Bucket.length_ahead_after_block more block
  refine ⟨(Bucket.of_mem_remaining (last_mem block)).1, fun text member => ?_,
    blockCount_lt asset.pageSize_pos wide shorter⟩
  obtain ⟨listed, here, rfl⟩ := List.mem_map.mp ((asset.survivors_sublist _ _).subset member)
  exact name_le_last (bucket.remaining_ascending _) block here

/-- A pass climbs, whatever token it starts with; what carries the induction is that every page with
more after it leaves fewer blocks ahead. -/
theorem run_climbs (bucket : Bucket) (name : String) (asset : Asset) (calls : Nat)
    (token : Option String) (exchanges : List Exchange) :
    let climb := run Bucket.remote.transcribed name asset key calls none token ⟨bucket, exchanges⟩
    ∃ made,
      climb.2.exchanges = exchanges ++ made ∧
        bucket.IsClimbed name asset token made ∧
        made.length ≤ blockCount (bucket.ahead (asset.request name token)) asset.pageSize ∧
        (blockCount (bucket.ahead (asset.request name token)) asset.pageSize ≤ calls →
          climb.1.ending ≠ .unfinished) ∧
        climb.1.items.Pairwise (· < ·) ∧
        ∀ text ∈ climb.1.items, isLeft token text ∧ asset.keyPrefix.toList <+: text.toList := by
  have some_block := blockCount_pos (bucket.ahead (asset.request name token)) asset.pageSize
  induction calls generalizing token exchanges with
  | zero =>
      refine ⟨[], by simp [run], isClimbed_nil, Nat.zero_le _, fun enough => ?_, by simp [run],
        by simp [run]⟩
      omega
  | succ calls ih =>
      have answered : Bucket.remote.list (asset.request name token) bucket =
          (bucket.list (asset.request name token), bucket) := rfl
      have written := @Remote.list_transcribed _ _ _ ⟨bucket, exchanges⟩ _ _ answered
      have alone := @isClimbed_cons bucket name asset token none [] isClimbed_nil (by simp)
      obtain ⟨fault, refused, ended⟩ | ⟨page, page_eq, last, ended⟩ |
        ⟨page, later, page_eq, turns, went_on⟩ := run_of_answer written calls
      · rw [ended]
        exact ⟨_, rfl, alone, some_block, by simp, .nil, by simp⟩
      · rw [ended]
        obtain ⟨ascend, past⟩ := survivors_ascend page_eq
        exact ⟨_, rfl, alone, some_block, by simp, ascend, past⟩
      · rw [went_on]
        obtain ⟨ascend, past⟩ := survivors_ascend page_eq
        obtain ⟨left, up_to, fewer⟩ := turns_ascend page_eq turns
        obtain ⟨made, transcript, climbed, few, rests, ascend_later, past_later⟩ :=
          ih (some later) _ (blockCount_pos _ _)
        refine ⟨_ :: made, ?_, isClimbed_cons climbed fun _ => ⟨later, rfl, left⟩, ?_, ?_, ?_, ?_⟩
        · rw [transcript, List.append_assoc, List.singleton_append]
        · rw [List.length_cons]
          omega
        · intro enough
          exact rests (by omega)
        · refine List.pairwise_append.mpr ⟨ascend, ascend_later, fun text here other after => ?_⟩
          exact (up_to text here).trans_lt (isLeft_some_iff.mp (past_later other after).1)
        · intro text member
          rcases List.mem_append.mp member with here | after
          · exact past text here
          · exact (past_later text after).imp_left (isLeft_trans left)

/-- The keys of a pass ascend, past the token that it starts with and under the prefix. -/
theorem run_ascends (bucket : Bucket) (name : String) (asset : Asset) (calls : Nat)
    (token : Option String) :
    let keys := (run Bucket.remote name asset key calls none token bucket).1.items
    keys.Pairwise (· < ·) ∧
      ∀ text ∈ keys, isLeft token text ∧ asset.keyPrefix.toList <+: text.toList := by
  obtain ⟨-, -, -, -, -, ascend, past⟩ := run_climbs bucket name asset calls token []
  rw [(run_transcribed Bucket.remote name asset calls token ⟨bucket, []⟩).1] at ascend past
  exact ⟨ascend, past⟩

/--
A pass that hands out everything ends, over any unchanged bucket and from any cursor: it needs no
more calls than everything that the stored objects under the prefix are listed as fills blocks of
the page size, however many it may make.  Its tokens rise from call to call, what is on a page is
past the token of its call and starts with the prefix, and the keys ascend, so that none comes twice.
-/
theorem pass_ends_climbing (bucket : Bucket) (name : String) (asset : Asset) (cursor : Cursor) :
    ∃ entries : List (String × Entry),
      Entries.Ascending entries ∧
        (∀ listed, listed ∈ entries ↔
          ∃ object, bucket.Stores object ∧
            Represents asset.keyPrefix asset.delimiter object listed) ∧
        (∀ calls, blockCount entries asset.pageSize ≤ calls →
          (run Bucket.remote name asset key calls none cursor.token bucket).1.ending ≠
            .unfinished) ∧
        ∀ calls,
          let exchanges := (run Bucket.remote.transcribed name asset key calls none cursor.token
            (.ofStore bucket)).2.exchanges
          exchanges.length ≤ blockCount entries asset.pageSize ∧
            bucket.IsClimbed name asset cursor.token exchanges ∧
            (run Bucket.remote name asset key calls none cursor.token bucket).1.items.Pairwise
              (· < ·) := by
  let entries := (Listing.rolledUp asset.keyPrefix asset.delimiter bucket.listed).entries
  have bound : blockCount (bucket.ahead (asset.request name cursor.token)) asset.pageSize ≤
      blockCount entries asset.pageSize :=
    blockCount_le (List.length_filter_le _ _)
  have mem_iff : ∀ listed, listed ∈ entries ↔
      ∃ object, bucket.Stores object ∧
        Represents asset.keyPrefix asset.delimiter object listed := by
    simp [entries, Listing.mem_rolledUp bucket.listed_ascending, Bucket.mem_listed_iff]
  refine ⟨entries, Table.ascending _, mem_iff, fun calls enough => ?_, fun calls => ?_⟩
  · obtain ⟨made, -, -, -, rests, -⟩ := run_climbs bucket name asset calls cursor.token []
    rw [(run_transcribed Bucket.remote name asset calls cursor.token ⟨bucket, []⟩).1] at rests
    exact rests (bound.trans enough)
  · obtain ⟨made, transcript, climbed, few, -⟩ :=
      run_climbs bucket name asset calls cursor.token []
    rw [Transcribed.ofStore, transcript, List.nil_append]
    exact ⟨few.trans bound, climbed, (run_ascends bucket name asset calls cursor.token).1⟩

end Walk
end BucketCatalog
