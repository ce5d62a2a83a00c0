import BucketCatalog.Proofs.Chain

/-!
# Chains over paths that are not paths of themselves

Without prefix and delimiter a chain reads all paths of a bucket.  The token of a page is a stored
path, and the next call begins after the path of that path.  Where the latter comes later, the paths
up to it are passed over; whether there are any depends on where the pages are cut.
-/

namespace BucketCatalog

open Listing

namespace Listing

/-- The entry of an object that is listed as itself. -/
def Listed.entry (object : Listed) : String × Entry :=
  (object.key, .object object.size)

@[simp]
theorem Listed.entry_fst (object : Listed) : object.entry.1 = object.key := rfl

/-- Where pages of a size cut ascending paths, the path of the last path of a page comes before the
first path of the next page. -/
def IsCleanCut (size : Nat) (paths : List String) : Prop :=
  ∀ page last next, paths[(page + 1) * size - 1]? = some last →
    paths[(page + 1) * size]? = some next → StoredPath.ofKey last < next

theorem Listed.entry_injective {first second : Listed} (same : first.entry = second.entry) :
    first = second := by
  cases first
  cases second
  simpa [Listed.entry] using same

theorem represents_flat_iff {object : Listed} {listed : String × Entry} :
    Represents "" "" object listed ↔ listed = object.entry := by
  constructor
  · intro represents
    cases represents with
    | object rest under flat => rfl
    | folder before after marked under first => exact absurd rfl marked
  · rintro rfl
    exact .object object.key (by simp) fun marked => absurd rfl marked

/-- Without prefix and delimiter objects are listed as themselves. -/
theorem entries_rolledUp_flat {objects : List Listed} (ascending : Ascending objects) :
    (rolledUp "" "" objects).entries = objects.map Listed.entry := by
  have sorted : Entries.Ascending (objects.map Listed.entry) := List.pairwise_map.mpr ascending
  refine Entries.eq_of_mem_iff (Table.ascending _) sorted fun listed => ?_
  simp only [mem_rolledUp ascending, represents_flat_iff, List.mem_map, eq_comm]

/-- A page of objects hands them out in order. -/
theorem listed_ofEntries_flat (objects : List Listed) (size : Nat) :
    (Page.ofEntries (objects.map Listed.entry) size).listed =
      (objects.take size).map Listed.entry := by
  have objects_kept : Entry.listed? ∘ Listed.entry = some := rfl
  have no_folders : Entry.folder? ∘ Listed.entry = fun _ => none := rfl
  simp only [Page.ofEntries, Page.listed, getD_nonEmpty?, ← List.map_take, List.filterMap_map,
    objects_kept, no_folders, List.filterMap_some, List.filterMap_none, List.map_nil,
    List.append_nil]
  rfl

variable {size : Nat} {paths front rest : List String} {last next : String}

theorem isCleanCut_of_fits (fits : paths.length ≤ size) : IsCleanCut size paths := by
  intro page last next _ found
  have inside : (page + 1) * size < paths.length := (List.getElem?_eq_some_iff.mp found).1
  have enough : size ≤ (page + 1) * size := Nat.le_mul_of_pos_left size (Nat.succ_pos page)
  omega

/-- The cuts of paths are the first cut and those of the paths after the first page. -/
theorem isCleanCut_iff (block : paths.take size = front ++ [last])
    (later : paths.drop size = next :: rest) :
    IsCleanCut size paths ↔
      StoredPath.ofKey last < next ∧ IsCleanCut size (paths.drop size) := by
  have more : size < paths.length := by
    have length := congrArg List.length later
    rw [List.length_drop, List.length_cons] at length
    omega
  have positive : 0 < size := by
    have length := congrArg List.length block
    rw [List.length_take, List.length_append, List.length_singleton] at length
    omega
  have last_at : paths[size - 1]? = some last := by
    have inside : (paths.take size)[size - 1]? = paths[size - 1]? :=
      List.getElem?_take_of_lt (Nat.sub_lt positive Nat.one_pos)
    have place : size - 1 = front.length := by
      have length := congrArg List.length block
      rw [List.length_take, List.length_append, List.length_singleton] at length
      omega
    rw [← inside, block, place]
    simp
  have next_at : paths[size]? = some next := by
    rw [← Nat.add_zero size, ← List.getElem?_drop, later]
    rfl
  have shifted : ∀ page, (page + 1 + 1) * size = size + (page + 1) * size := by
    intro page
    rw [Nat.add_mul (page + 1), Nat.one_mul, Nat.add_comm]
  have inner : ∀ page, size + ((page + 1) * size - 1) = (page + 1 + 1) * size - 1 := by
    intro page
    have enough : size ≤ (page + 1) * size := Nat.le_mul_of_pos_left size (Nat.succ_pos page)
    rw [shifted]
    omega
  constructor
  · intro clean
    refine ⟨clean 0 last next (by simpa using last_at) (by simpa using next_at), ?_⟩
    intro page other following other_at following_at
    rw [List.getElem?_drop] at other_at following_at
    exact clean (page + 1) other following (by rwa [← inner]) (by rwa [shifted])
  · rintro ⟨first, clean⟩ page other following other_at following_at
    cases page with
    | zero =>
        rw [Nat.zero_add, Nat.one_mul] at other_at following_at
        obtain rfl := Option.some.inj (last_at.symm.trans other_at)
        obtain rfl := Option.some.inj (next_at.symm.trans following_at)
        exact first
    | succ page =>
        refine clean page other following ?_ ?_
        · rwa [List.getElem?_drop, inner]
        · rwa [List.getElem?_drop, ← shifted]

theorem isCleanCut_keys_iff {objects front rest : List Listed} {last next : Listed}
    (block : objects.take size = front ++ [last]) (later : objects.drop size = next :: rest) :
    IsCleanCut size (objects.map Listed.key) ↔
      StoredPath.ofKey last.key < next.key ∧
        IsCleanCut size ((objects.drop size).map Listed.key) := by
  have block_keys : (objects.map Listed.key).take size = front.map Listed.key ++ [last.key] := by
    rw [← List.map_take, block, List.map_append, List.map_singleton]
  have later_keys : (objects.map Listed.key).drop size = next.key :: rest.map Listed.key := by
    rw [← List.map_drop, later, List.map_cons]
  rw [isCleanCut_iff block_keys later_keys, ← List.map_drop]

end Listing

/-- The tokens that the pages of a chain bring. -/
def Chain.tokens (chain : Chain) : List String :=
  chain.pages.filterMap Page.next?

theorem Chain.tokens_prepend {page : Page} {token : String} (brings : page.next? = some token)
    (chain : Chain) : (chain.prepend page).tokens = token :: chain.tokens :=
  List.filterMap_cons_some brings

namespace Bucket

variable {bucket : Bucket} {request : Request}

/-- The objects that calls read without prefix and delimiter, after a token. -/
def unread (bucket : Bucket) (token : Option String) : List Listed :=
  bucket.visible.filter fun object => isAfterOffset token object.key && isLeft token object.key

@[simp]
theorem unread_none (bucket : Bucket) : bucket.unread none = bucket.visible := by
  simp [unread, isAfterOffset]

theorem keys_visible (bucket : Bucket) :
    bucket.visible.map Listed.key = bucket.objects.keys.filter fun path => path ≠ "" := by
  simp only [visible, listed, Table.keys, List.filter_map, List.map_map]
  rfl

theorem unread_ascending (bucket : Bucket) (token : Option String) :
    Ascending (bucket.unread token) :=
  bucket.visible_ascending.filter _

/-- What a chain of all paths relies on. -/
structure ReadsAll (bucket : Bucket) (request : Request) : Prop where
  /-- Listings do not fail. -/
  undisturbed : bucket.disturbance.listing = none
  /-- The request names the bucket. -/
  own : request.bucket = bucket.name
  /-- There is no prefix. -/
  whole : request.keyPrefix = ""
  /-- There is no delimiter. -/
  flat : request.delimiter = ""

theorem ReadsAll.after (reads : bucket.ReadsAll request) (token : String) :
    bucket.ReadsAll { request with token := some token } :=
  ⟨reads.undisturbed, reads.own, reads.whole, reads.flat⟩

/-- Without a prefix the bucket delivers all objects after the path of the token. -/
theorem feed_whole (undisturbed : bucket.disturbance.listing = none) (token : Option String) :
    (bucket.feed "" token).objects =
      bucket.visible.filter fun object => isAfterOffset token object.key := by
  have base : basePath "" = "" := rfl
  have below : ∀ path, StoredPath.isBelow "" path = decide (path ≠ "") := by
    intro path
    rw [Bool.eq_iff_iff]
    simp [StoredPath.isBelow]
  simp only [feed, undisturbed, base, below, visible]

theorem ReadsAll.remaining_eq (reads : bucket.ReadsAll request) :
    bucket.remaining request = (bucket.unread request.token).map Listed.entry := by
  have ascending : Ascending
      (bucket.visible.filter fun object => isAfterOffset request.token object.key) :=
    bucket.visible_ascending.filter _
  rw [remaining, reads.whole, reads.flat, feed_whole reads.undisturbed,
    entries_rolledUp_flat ascending, List.filter_map, List.filter_filter, unread]
  simp only [Function.comp_apply, Listed.entry_fst, Bool.and_comm]

theorem mem_unread_iff {token : Option String} {object : Listed} :
    object ∈ bucket.unread token ↔
      object ∈ bucket.visible ∧ isAfterOffset token object.key ∧ isLeft token object.key := by
  rw [unread, List.mem_filter, Bool.and_eq_true]

theorem isAfterOffset_of_lt {token : Option String} {first second : String}
    (after : isAfterOffset token first) (order : first < second) : isAfterOffset token second := by
  cases token with
  | none => rfl
  | some text =>
      exact isAfterOffset_some_iff.mpr ((isAfterOffset_some_iff.mp after).trans order)

/-- Of the objects after a page the next call reads those after the path of its last path. -/
theorem unread_after_block {token : Option String} {size : Nat} {front : List Listed}
    {last : Listed} (block : (bucket.unread token).take size = front ++ [last]) :
    bucket.unread (some last.key) =
      ((bucket.unread token).drop size).filter
        fun object => StoredPath.ofKey last.key < object.key := by
  obtain ⟨-, last_after, last_left⟩ := mem_unread_iff.mp (last_mem block)
  rw [← filter_isLeft_eq_drop (bucket.unread_ascending token) block, unread, unread,
    List.filter_filter, List.filter_filter]
  refine List.filter_congr fun object _ => ?_
  rw [Bool.eq_iff_iff]
  simp only [Bool.and_eq_true]
  constructor
  · rintro ⟨after, later⟩
    exact ⟨⟨after, later⟩, isAfterOffset_of_lt last_after (isLeft_some_iff.mp later),
      isLeft_trans last_left later⟩
  · rintro ⟨here, -⟩
    exact here

/-- After a clean cut the next call reads everything after the page. -/
theorem unread_of_clean {token : Option String} {size : Nat} {front rest : List Listed}
    {last next : Listed} (block : (bucket.unread token).take size = front ++ [last])
    (later : (bucket.unread token).drop size = next :: rest)
    (clean : StoredPath.ofKey last.key < next.key) :
    bucket.unread (some last.key) = (bucket.unread token).drop size := by
  have sorted : Ascending (next :: rest) := by
    rw [← later]
    exact (bucket.unread_ascending token).sublist (List.drop_sublist _ _)
  rw [unread_after_block block, List.filter_eq_self, later]
  intro object member
  rcases List.mem_cons.mp member with rfl | after
  · exact decide_eq_true clean
  · exact decide_eq_true (clean.trans ((List.pairwise_cons.mp sorted).1 object after))

/-- A call either ends a chain of all paths, or it goes on after the last path of its page. -/
theorem ReadsAll.chain_step (reads : bucket.ReadsAll request) (calls : Nat) :
    ∃ page,
      page.listed =
          ((bucket.unread request.token).take request.pageSize).map Listed.entry ∧
        ((bucket.unread request.token).length ≤ request.pageSize ∧ page.next? = none ∧
            Bucket.remote.chain (calls + 1) request bucket = (⟨[page], .complete⟩, bucket) ∨
          ∃ front last, request.pageSize < (bucket.unread request.token).length ∧
            (bucket.unread request.token).take request.pageSize = front ++ [last] ∧
            page.next? = some last.key ∧
            (Bucket.remote.chain (calls + 1) request bucket).1 =
              (Bucket.remote.chain calls { request with token := some last.key } bucket).1.prepend
                page) := by
  have answer : Bucket.remote.list request bucket =
      (.ok (.ofEntries ((bucket.unread request.token).map Listed.entry) request.pageSize),
        bucket) := by
    simp only [remote, list_eq reads.own reads.undisturbed, reads.remaining_eq]
  refine ⟨.ofEntries ((bucket.unread request.token).map Listed.entry) request.pageSize,
    listed_ofEntries_flat _ _, ?_⟩
  obtain ⟨fits, ended⟩ | ⟨front, last, more, block, went_on⟩ :=
    Remote.chain_of_answer calls answer
  · exact .inl ⟨by simpa using fits, next?_ofEntries_eq_none fits, ended⟩
  · have brings := next?_ofEntries_of_more more block
    rw [← List.map_take] at block
    obtain ⟨objects, lasts, whole, rfl, last_eq⟩ := List.map_eq_append_iff.mp block
    obtain ⟨object, rfl, rfl⟩ := List.map_eq_singleton_iff.mp last_eq
    exact .inr ⟨objects, object, by simpa using more, whole, brings, by rw [went_on]; rfl⟩

/-- A chain of all paths hands out nothing else, in order, and nothing twice. -/
theorem ReadsAll.chain_sublist (reads : bucket.ReadsAll request) (calls : Nat) :
    (Bucket.remote.chain calls request bucket).1.listed.Sublist
      ((bucket.unread request.token).map Listed.entry) := by
  induction calls generalizing request with
  | zero => simp [Remote.chain, Chain.listed]
  | succ calls ih =>
      obtain ⟨page, on_page, ⟨fits, -, ended⟩ | ⟨front, last, more, block, -, went_on⟩⟩ :=
        reads.chain_step calls
      · rw [List.take_of_length_le fits] at on_page
        simp [ended, Chain.listed, on_page]
      · have rest := ih (reads.after last.key)
        rw [unread_after_block block] at rest
        have later := rest.trans (List.filter_sublist.map Listed.entry)
        rw [went_on, Chain.listed_prepend, on_page]
        conv_rhs => rw [← List.take_append_drop request.pageSize (bucket.unread request.token),
          List.map_append]
        exact (List.Sublist.refl _).append later

theorem ReadsAll.mem_unread_of_mem_chain (reads : bucket.ReadsAll request) {calls : Nat}
    {object : Listed}
    (handed : object.entry ∈ (Bucket.remote.chain calls request bucket).1.listed) :
    object ∈ bucket.unread request.token := by
  obtain ⟨other, member, same⟩ := List.mem_map.mp ((reads.chain_sublist calls).subset handed)
  rwa [← Listed.entry_injective same]

/-- As many calls as there are objects are enough, and one more. -/
theorem ReadsAll.chain_complete (reads : bucket.ReadsAll request) {calls : Nat}
    (enough : (bucket.unread request.token).length < calls) :
    (Bucket.remote.chain calls request bucket).1.ending = .complete := by
  induction calls generalizing request with
  | zero => simp at enough
  | succ calls ih =>
      obtain ⟨page, on_page, ⟨fits, -, ended⟩ | ⟨front, last, more, block, -, went_on⟩⟩ :=
        reads.chain_step calls
      · rw [ended]
      · have fewer : (bucket.unread (some last.key)).length < calls := by
          have shorter := List.length_filter_le
            (fun object : Listed => decide (StoredPath.ofKey last.key < object.key))
            ((bucket.unread request.token).drop request.pageSize)
          have positive := request.pageSize_pos
          rw [unread_after_block block]
          rw [List.length_drop] at shorter
          omega
        rw [went_on]
        exact ih (reads.after last.key) fewer

/-- The tokens of a chain come after the token that it starts with. -/
theorem ReadsAll.isLeft_of_mem_tokens (reads : bucket.ReadsAll request) {calls : Nat}
    {token : String} (member : token ∈ (Bucket.remote.chain calls request bucket).1.tokens) :
    isLeft request.token token := by
  induction calls generalizing request with
  | zero => simp [Remote.chain, Chain.tokens] at member
  | succ calls ih =>
      obtain ⟨page, on_page, ⟨fits, unbrought, ended⟩ |
        ⟨front, last, more, block, brings, went_on⟩⟩ := reads.chain_step calls
      · simp [ended, Chain.tokens, unbrought] at member
      · have last_left := (mem_unread_iff.mp (last_mem block)).2.2
        rw [went_on, Chain.tokens_prepend brings] at member
        rcases List.mem_cons.mp member with rfl | later
        · exact last_left
        · exact isLeft_trans last_left (ih (reads.after last.key) later)

/-- An object is handed out exactly if it comes after the paths of all tokens before it. -/
theorem ReadsAll.mem_chain_iff (reads : bucket.ReadsAll request) {calls : Nat}
    (complete : (Bucket.remote.chain calls request bucket).1.ending = .complete)
    {object : Listed} (member : object ∈ bucket.unread request.token) :
    object.entry ∈ (Bucket.remote.chain calls request bucket).1.listed ↔
      ∀ token ∈ (Bucket.remote.chain calls request bucket).1.tokens,
        token < object.key → StoredPath.ofKey token < object.key := by
  induction calls generalizing request with
  | zero => simp [Remote.chain] at complete
  | succ calls ih =>
      obtain ⟨page, on_page, ⟨fits, unbrought, ended⟩ |
        ⟨front, last, more, block, brings, went_on⟩⟩ := reads.chain_step calls
      · rw [List.take_of_length_le fits] at on_page
        have handed : object.entry ∈ page.listed := by
          rw [on_page]
          exact List.mem_map_of_mem member
        simp [ended, Chain.listed, Chain.tokens, unbrought, handed]
      · have next_reads := reads.after last.key
        have ascending := bucket.unread_ascending request.token
        rw [went_on] at complete ⊢
        rw [Chain.listed_prepend, Chain.tokens_prepend brings, on_page, List.mem_append,
          List.forall_mem_cons]
        rw [← List.take_append_drop request.pageSize (bucket.unread request.token),
          List.mem_append] at member
        rcases member with here | later
        · -- All tokens are at or after the last path of this page.
          have bound := name_le_last ascending block here
          refine iff_of_true (.inl (List.mem_map_of_mem here)) ⟨?_, fun token token_member => ?_⟩
          · exact fun order => absurd bound (not_le_of_gt order)
          · have after_last := isLeft_some_iff.mp (next_reads.isLeft_of_mem_tokens token_member)
            exact fun order => absurd (after_last.trans order) (not_lt_of_ge bound)
        · have order := last_lt_name ascending block later
          have next_iff : object ∈ bucket.unread (some last.key) ↔
              StoredPath.ofKey last.key < object.key := by
            rw [unread_after_block block, List.mem_filter, decide_eq_true_iff]
            exact and_iff_right later
          have elsewhere : object.entry ∉
              ((bucket.unread request.token).take request.pageSize).map Listed.entry := by
            intro handed
            obtain ⟨other, other_member, same⟩ := List.mem_map.mp handed
            have bound := name_le_last ascending block other_member
            rw [← Listed.entry_fst other, same] at bound
            exact absurd bound (not_le_of_gt order)
          rw [or_iff_right elsewhere]
          by_cases read : StoredPath.ofKey last.key < object.key
          · rw [and_iff_right fun _ => read]
            exact ih next_reads complete (next_iff.mpr read)
          · refine iff_of_false (fun handed => ?_) fun kept => read (kept.1 order)
            exact read (next_iff.mp (next_reads.mem_unread_of_mem_chain handed))

/-- A chain hands out everything exactly if its pages are cut cleanly. -/
theorem ReadsAll.listed_eq_iff (reads : bucket.ReadsAll request) {calls : Nat}
    (complete : (Bucket.remote.chain calls request bucket).1.ending = .complete) :
    (Bucket.remote.chain calls request bucket).1.listed =
        (bucket.unread request.token).map Listed.entry ↔
      IsCleanCut request.pageSize ((bucket.unread request.token).map Listed.key) := by
  induction calls generalizing request with
  | zero => simp [Remote.chain] at complete
  | succ calls ih =>
      obtain ⟨page, on_page, ⟨fits, -, ended⟩ | ⟨front, last, more, block, -, went_on⟩⟩ :=
        reads.chain_step calls
      · rw [List.take_of_length_le fits] at on_page
        refine iff_of_true ?_ (isCleanCut_of_fits (by simpa using fits))
        simp [ended, Chain.listed, on_page]
      · have next_reads := reads.after last.key
        obtain ⟨next, rest, later⟩ : ∃ next rest,
            (bucket.unread request.token).drop request.pageSize = next :: rest := by
          apply List.exists_cons_of_length_pos
          rw [List.length_drop]
          omega
        have tail := @ih { request with token := some last.key } next_reads
        have same_size : ({ request with token := some last.key } : Request).pageSize =
            request.pageSize := rfl
        rw [went_on] at complete ⊢
        rw [Chain.listed_prepend, on_page, isCleanCut_keys_iff block later]
        have cut : (bucket.unread request.token).map Listed.entry =
            ((bucket.unread request.token).take request.pageSize).map Listed.entry ++
              ((bucket.unread request.token).drop request.pageSize).map Listed.entry := by
          rw [← List.map_append, List.take_append_drop]
        rw [cut, List.append_cancel_left_eq]
        constructor
        · intro all
          have handed : next.entry ∈ (Bucket.remote.chain calls
              { request with token := some last.key } bucket).1.listed := by
            rw [all, later]
            exact List.mem_cons_self
          have next_member := next_reads.mem_unread_of_mem_chain handed
          rw [unread_after_block block, List.mem_filter] at next_member
          have clean : StoredPath.ofKey last.key < next.key := of_decide_eq_true next_member.2
          rw [unread_of_clean block later clean, same_size] at tail
          exact ⟨clean, (tail complete).mp all⟩
        · rintro ⟨clean, rest_clean⟩
          rw [unread_of_clean block later clean, same_size] at tail
          exact (tail complete).mpr rest_clean

/--
The chain of a listing without prefix and delimiter is complete after one call more than there are
objects, and hands out nothing but the objects, in order and none twice.  It hands out an object
exactly if the object comes after the path of every token that it comes after, and every object
exactly if the pages are cut cleanly.
-/
theorem chain_lists_all_iff (undisturbed : bucket.disturbance.listing = none)
    (own : request.bucket = bucket.name) (whole : request.keyPrefix = "")
    (flat : request.delimiter = "") (first : request.token = none) {calls : Nat}
    (enough : bucket.visible.length < calls) :
    (Bucket.remote.chain calls request bucket).1.ending = .complete ∧
      (Bucket.remote.chain calls request bucket).1.listed.Sublist
        (bucket.visible.map Listed.entry) ∧
      (∀ object ∈ bucket.visible,
        object.entry ∈ (Bucket.remote.chain calls request bucket).1.listed ↔
          ∀ token ∈ (Bucket.remote.chain calls request bucket).1.tokens,
            token < object.key → StoredPath.ofKey token < object.key) ∧
      ((∀ path ∈ bucket.objects.keys, path ≠ "" →
          ((Bucket.remote.chain calls request bucket).1.listed.map Prod.fst).count path = 1) ↔
        IsCleanCut (max 1 request.maxKeys.toNat) (bucket.visible.map Listed.key)) := by
  have reads : bucket.ReadsAll request := ⟨undisturbed, own, whole, flat⟩
  have start : bucket.unread request.token = bucket.visible := by rw [first, unread_none]
  have complete : (Bucket.remote.chain calls request bucket).1.ending = .complete :=
    reads.chain_complete (by rwa [start])
  have among := reads.chain_sublist calls
  have read_iff {object : Listed} := @ReadsAll.mem_chain_iff _ _ reads calls complete object
  have all_iff := reads.listed_eq_iff complete
  rw [start] at among all_iff
  refine ⟨complete, among, fun object member => read_iff (by rwa [start]), ?_⟩
  rw [← Request.pageSize, ← all_iff]
  have names : (bucket.visible.map Listed.entry).map Prod.fst = bucket.visible.map Listed.key := by
    rw [List.map_map]
    rfl
  have distinct : (bucket.visible.map Listed.key).Nodup :=
    List.pairwise_map.mpr (bucket.visible_ascending.imp fun order => order.ne)
  constructor
  · intro once
    have handed : bucket.visible.map Listed.key ⊆
        (Bucket.remote.chain calls request bucket).1.listed.map Prod.fst := by
      intro path member
      rw [keys_visible, List.mem_filter, decide_eq_true_iff] at member
      apply List.count_pos_iff.mp
      rw [once path member.1 member.2]
      exact Nat.one_pos
    apply among.eq_of_length_le
    simpa using List.Nodup.length_le_of_subset distinct handed
  · intro all path member nonempty
    rw [all, names]
    apply List.count_eq_one_of_mem distinct
    rw [keys_visible, List.mem_filter, decide_eq_true_iff]
    exact ⟨member, nonempty⟩

/-- Two objects whose keys are not their paths. -/
def hashed : Bucket :=
  ofKeys "b" ["a#b", "a#c"]

/-- The first page of one object. -/
def hashedRequest : Request :=
  { Request.ofPrefix "b" "" with delimiter := "", maxKeys := 1 }

/-- The path of the first path comes after the second path, so the cut between the two loses the
second object. -/
theorem chain_loses_path :
    (Bucket.remote.chain 3 hashedRequest hashed).1.ending = .complete ∧
      "a%23c" ∈ hashed.objects.keys ∧
      ((Bucket.remote.chain 3 hashedRequest hashed).1.listed.map Prod.fst).count "a%23c" = 0 := by
  refine ⟨?_, ?_, ?_⟩ <;> decide +kernel

theorem chain_lists_all_iff_hashed :
    hashed.disturbance.listing = none ∧ hashedRequest.bucket = hashed.name ∧
      hashedRequest.keyPrefix = "" ∧ hashedRequest.delimiter = "" ∧ hashedRequest.token = none ∧
      hashed.visible.length < 3 ∧
      ((∀ path ∈ hashed.objects.keys, path ≠ "" →
          ((Bucket.remote.chain 3 hashedRequest hashed).1.listed.map Prod.fst).count path = 1) ↔
        IsCleanCut 1 (hashed.visible.map Listed.key)) := by
  have enough : hashed.visible.length < 3 := by decide +kernel
  have law := @chain_lists_all_iff hashed hashedRequest rfl rfl rfl rfl rfl 3 enough
  exact ⟨rfl, rfl, rfl, rfl, rfl, enough, law.2.2.2⟩

end Bucket

end BucketCatalog
