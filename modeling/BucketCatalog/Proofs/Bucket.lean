import BucketCatalog.Proofs.Gather
import BucketCatalog.Proofs.StoredPath

/-!
# One listing call

A call answers the first entries that are left after its token.  In a bucket of stable paths what is
left is everything that its objects are listed as, past the token: neither the base of the prefix
nor the path of the token hides an object.  `ListsAs` says which entries these are, and
`Page.ofBlock` which page is made of the first of them.
-/

namespace BucketCatalog

open Listing

namespace StoredPath

theorem ne_empty_of_isBelow {base path : String} (below : isBelow base path) : path ≠ "" := by
  rintro rfl
  rw [isBelow] at below
  split at below
  · simp at below
  · obtain ⟨rest, found⟩ := Option.isSome_iff_exists.mp below
    have whole := congrArg String.toList (Text.withoutLead?_eq_some_iff.mp found)
    simp at whole

end StoredPath

namespace Listing

/-- Whether a name is left to list after a token. -/
def isLeft (token : Option String) (name : String) : Bool :=
  match token with
  | none => true
  | some token => token < name

@[simp]
theorem isLeft_none (name : String) : isLeft none name = true := rfl

@[simp]
theorem isLeft_some_iff {token name : String} : isLeft (some token) name = true ↔ token < name :=
  decide_eq_true_iff

theorem isLeft_trans {token : Option String} {last name : String} (left : isLeft token last)
    (later : isLeft (some last) name) : isLeft token name := by
  cases token with
  | none => rfl
  | some text =>
      exact isLeft_some_iff.mpr ((isLeft_some_iff.mp left).trans (isLeft_some_iff.mp later))

theorem not_isPassed (bounds : Bounds) (name : String) :
    (!bounds.isPassed name) = isLeft bounds.after name := by
  simp only [Bounds.isPassed, isLeft]
  cases bounds.after with
  | none => rfl
  | some token => simp [← not_lt]

/-- The objects among entries, with their sizes. -/
def objectsOf : List (String × Entry) → List Listed
  | [] => []
  | (_, .folder) :: entries => objectsOf entries
  | (name, .object size) :: entries => ⟨name, size⟩ :: objectsOf entries

/-- The common prefixes among entries. -/
def foldersOf : List (String × Entry) → List String
  | [] => []
  | (name, .folder) :: entries => name :: foldersOf entries
  | (_, .object _) :: entries => foldersOf entries

/-- The collection of items on a page; without items there is none. -/
def collectionOf {α : Type} : List α → Option (List α)
  | [] => none
  | item :: items => some (item :: items)

/-- The page of a block of entries.  If there are more, its token is the name of the last. -/
def Page.ofBlock (block : List (String × Entry)) (more : Bool) : Page where
  contents := collectionOf (objectsOf block)
  commonPrefixes := collectionOf (foldersOf block)
  isTruncated := more
  nextToken := if more then block.getLast?.map Prod.fst else none

theorem collectionOf_eq {α : Type} (items : List α) : collectionOf items = nonEmpty? items := by
  cases items with
  | nil => rfl
  | cons item items => rfl

theorem objectsOf_eq (entries : List (String × Entry)) :
    objectsOf entries = entries.filterMap Entry.listed? := by
  induction entries with
  | nil => rfl
  | cons head entries ih =>
      obtain ⟨name, _ | size⟩ := head <;> simp [objectsOf, List.filterMap_cons, Entry.listed?, ih]

theorem foldersOf_eq (entries : List (String × Entry)) :
    foldersOf entries = entries.filterMap Entry.folder? := by
  induction entries with
  | nil => rfl
  | cons head entries ih =>
      obtain ⟨name, _ | size⟩ := head <;> simp [foldersOf, List.filterMap_cons, Entry.folder?, ih]

/-- The page cut out of entries is that of their first block. -/
theorem Page.ofBlock_take (entries : List (String × Entry)) (size : Nat) :
    Page.ofBlock (entries.take size) (size < entries.length) = .ofEntries entries size := by
  simp only [Page.ofBlock, Page.ofEntries, collectionOf_eq, objectsOf_eq, foldersOf_eq]

/-- One entry more than the page holds is enough to make the page. -/
theorem Page.ofEntries_take (entries : List (String × Entry)) (size : Nat) :
    Page.ofEntries (entries.take (size + 1)) size = Page.ofEntries entries size := by
  have kept : (entries.take (size + 1)).take size = entries.take size := by
    rw [List.take_take, Nat.min_eq_left (Nat.le_succ size)]
  have more : size < (entries.take (size + 1)).length ↔ size < entries.length := by
    rw [List.length_take]
    omega
  simp only [Page.ofEntries, kept, more]

end Listing

namespace Bucket

variable {bucket : Bucket} {request : Request} {keyPrefix delimiter : String}

/-- A bucket stores an object at its key, with its size. -/
def Stores (bucket : Bucket) (object : Listed) : Prop :=
  ∃ stored, (object.key, stored) ∈ bucket.objects.entries ∧
    object.size = UInt64.ofNat stored.body.length

/-- The objects that can be listed: all but one at the empty path. -/
def visible (bucket : Bucket) : List Listed :=
  bucket.listed.filter fun object => object.key ≠ ""

/-- Everything that the objects of a bucket are listed as. -/
def rolledUp (bucket : Bucket) (keyPrefix delimiter : String) : Table Entry :=
  Listing.rolledUp keyPrefix delimiter bucket.visible

/-- The entries that are left to list after the token of a request. -/
def remaining (bucket : Bucket) (request : Request) : List (String × Entry) :=
  (Listing.rolledUp request.keyPrefix request.delimiter
    (bucket.feed request.keyPrefix request.token).objects).entries.filter
      fun listed => isLeft request.token listed.1

/-- All paths of a bucket are paths of themselves. -/
def IsStable (bucket : Bucket) : Prop :=
  ∀ path ∈ bucket.objects.keys, StoredPath.IsStable path

instance (bucket : Bucket) : Decidable bucket.IsStable :=
  inferInstanceAs (Decidable (∀ path ∈ bucket.objects.keys, StoredPath.IsStable path))

/-- The bucket of empty objects at the paths of keys. -/
def ofKeys (name : String) (keys : List String) : Bucket :=
  keys.foldl (fun bucket key => bucket.put key ⟨none, none, []⟩) (empty name)

/-- A bucket whose one object is at the empty path. -/
def rootOnly : Bucket :=
  (empty "b").put "" ⟨none, none, [120]⟩

theorem mem_listed_iff {object : Listed} : object ∈ bucket.listed ↔ bucket.Stores object := by
  rw [listed, List.mem_map]
  constructor
  · rintro ⟨⟨path, stored⟩, member, rfl⟩
    exact ⟨stored, member, rfl⟩
  · rintro ⟨stored, member, size_eq⟩
    exact ⟨_, member, by rw [Stored.size, ← size_eq]⟩

theorem listed_ascending (bucket : Bucket) : Ascending bucket.listed :=
  List.pairwise_map.mpr bucket.objects.ascending

theorem visible_ascending (bucket : Bucket) : Ascending bucket.visible :=
  bucket.listed_ascending.filter _

theorem feed_sublist (bucket : Bucket) (keyPrefix : String) (token : Option String) :
    (bucket.feed keyPrefix token).objects.Sublist bucket.listed := by
  simp only [feed]
  cases bucket.disturbance.listing with
  | none => exact List.filter_sublist.trans List.filter_sublist
  | some disturbance =>
      exact List.filter_sublist.trans ((List.take_sublist _ _).trans List.filter_sublist)

theorem mem_feed_iff (undisturbed : bucket.disturbance.listing = none) {token : Option String}
    {object : Listed} :
    object ∈ (bucket.feed keyPrefix token).objects ↔
      object ∈ bucket.listed ∧ StoredPath.isBelow (basePath keyPrefix) object.key ∧
        isAfterOffset token object.key := by
  simp only [feed, undisturbed, List.mem_filter, and_assoc]

/-- A call answers the first entries that are left. -/
theorem list_eq (own : request.bucket = bucket.name)
    (undisturbed : bucket.disturbance.listing = none) :
    bucket.list request = .ok (.ofEntries (bucket.remaining request) request.pageSize) := by
  have ascending := bucket.listed_ascending.sublist
    (bucket.feed_sublist request.keyPrefix request.token)
  have unfailing : (bucket.feed request.keyPrefix request.token).failure = none := by
    simp [feed, undisturbed]
  obtain ⟨table, gathered, entries_eq⟩ := Feed.entries_eq ascending unfailing
    { keyPrefix := request.keyPrefix
      delimiter := request.delimiter
      after := request.token
      limit := request.pageSize + 1 }
  simp only [not_isPassed] at entries_eq
  rw [list, if_pos own]
  simp only [gathered]
  change Except.ok (Page.ofEntries table.entries request.pageSize) = _
  rw [entries_eq, Page.ofEntries_take, remaining]

/-- A call to a bucket whose listings end with an error meets it if the entries that are left before
it are at most one more than the page holds; otherwise it answers the first of them. -/
theorem list_of_disturbed {error : StorageError} {count : Nat}
    (own : request.bucket = bucket.name)
    (disturbed : bucket.disturbance.listing = some (error, count)) :
    bucket.list request =
      if (bucket.remaining request).length ≤ request.pageSize + 1 then .error error.failure
      else .ok (.ofEntries (bucket.remaining request) request.pageSize) := by
  have ascending := bucket.listed_ascending.sublist
    (bucket.feed_sublist request.keyPrefix request.token)
  have failing : (bucket.feed request.keyPrefix request.token).failure = some error.failure := by
    simp [feed, disturbed]
  obtain ⟨few, met⟩ | ⟨more, table, gathered, entries_eq⟩ :=
    Feed.entries_of_failing ascending failing
      { keyPrefix := request.keyPrefix
        delimiter := request.delimiter
        after := request.token
        limit := request.pageSize + 1 }
  · have fits : (bucket.remaining request).length ≤ request.pageSize + 1 := by
      simpa only [not_isPassed, remaining] using few
    rw [list, if_pos own, if_pos fits]
    simp only [met]
    rfl
  · have not_fits : ¬(bucket.remaining request).length ≤ request.pageSize + 1 := by
      simpa only [not_isPassed, remaining, not_le] using more
    simp only [not_isPassed] at entries_eq
    rw [list, if_pos own, if_neg not_fits]
    simp only [gathered]
    change Except.ok (Page.ofEntries table.entries request.pageSize) = _
    rw [entries_eq, Page.ofEntries_take, remaining]

/-- Whatever a bucket holds and however it is disturbed, a call fails or answers the first entries
that are left. -/
theorem list_cases (bucket : Bucket) (request : Request) :
    (∃ failure, bucket.list request = .error failure) ∨
      bucket.list request = .ok (.ofEntries (bucket.remaining request) request.pageSize) := by
  by_cases own : request.bucket = bucket.name
  · cases disturbed : bucket.disturbance.listing with
    | none => exact .inr (list_eq own disturbed)
    | some disturbance =>
        rw [list_of_disturbed own disturbed]
        split
        · exact .inl ⟨_, rfl⟩
        · exact .inr rfl
  · exact .inl ⟨_, if_neg own⟩

theorem page_of_list {page : Page} (answered : bucket.list request = .ok page) :
    page = .ofEntries (bucket.remaining request) request.pageSize := by
  obtain ⟨failure, failed⟩ | whole := bucket.list_cases request
  · simp [failed] at answered
  · exact Except.ok.inj (answered.symm.trans whole)

theorem mem_rolledUp {listed : String × Entry} :
    listed ∈ (bucket.rolledUp keyPrefix delimiter).entries ↔
      ∃ object ∈ bucket.listed, object.key ≠ "" ∧
        Represents keyPrefix delimiter object listed := by
  rw [rolledUp, Listing.mem_rolledUp bucket.visible_ascending]
  simp [visible, and_assoc]

/-- The entries that the objects of a bucket are listed as under a prefix, in byte order and each
once.  An object at the empty path is not listed. -/
structure ListsAs (bucket : Bucket) (keyPrefix delimiter : String)
    (entries : List (String × Entry)) : Prop where
  /-- The entries are in byte order. -/
  ascending : Entries.Ascending entries
  /-- They are what the stored objects are listed as. -/
  mem_iff : ∀ listed, listed ∈ entries ↔
    ∃ object, bucket.Stores object ∧ object.key ≠ "" ∧ Represents keyPrefix delimiter object listed

theorem ListsAs.eq {entries others : List (String × Entry)}
    (lists : bucket.ListsAs keyPrefix delimiter entries)
    (lists_others : bucket.ListsAs keyPrefix delimiter others) : entries = others :=
  Entries.eq_of_mem_iff lists.ascending lists_others.ascending fun listed =>
    (lists.mem_iff listed).trans (lists_others.mem_iff listed).symm

theorem listsAs_rolledUp (bucket : Bucket) (keyPrefix delimiter : String) :
    bucket.ListsAs keyPrefix delimiter (bucket.rolledUp keyPrefix delimiter).entries where
  ascending := Table.ascending _
  mem_iff := fun _ => by simp only [mem_rolledUp, mem_listed_iff]

theorem mem_remaining {listed : String × Entry} :
    listed ∈ bucket.remaining request ↔
      (∃ object ∈ (bucket.feed request.keyPrefix request.token).objects,
        Represents request.keyPrefix request.delimiter object listed) ∧
          isLeft request.token listed.1 := by
  have ascending := bucket.listed_ascending.sublist
    (bucket.feed_sublist request.keyPrefix request.token)
  rw [remaining, List.mem_filter, Listing.mem_rolledUp ascending]

theorem remaining_ascending (bucket : Bucket) (request : Request) :
    Entries.Ascending (bucket.remaining request) :=
  (Table.ascending _).filter _

theorem key_mem_keys {object : Listed} (member : object ∈ bucket.listed) :
    object.key ∈ bucket.objects.keys := by
  obtain ⟨entry, entry_member, rfl⟩ := List.mem_map.mp member
  exact List.mem_map_of_mem entry_member

/-- The part of a prefix before its last slash; empty if it has none. -/
def baseText (keyPrefix : String) : String :=
  String.ofList ((Text.beforeLast? '/' keyPrefix.toList).getD [])

theorem basePath_eq (keyPrefix : String) :
    basePath keyPrefix = StoredPath.ofKey (baseText keyPrefix) := by
  rw [basePath, baseText]
  cases Text.beforeLast? '/' keyPrefix.toList with
  | none => exact StoredPath.isStable_empty.symm
  | some base => rfl

/-- A key under a prefix without a slash is anything; under any other it goes on after the base and
a slash. -/
theorem baseText_cases {key : String} (leads : keyPrefix.toList <+: key.toList) :
    baseText keyPrefix = "" ∧ '/' ∉ keyPrefix.toList ∨
      ∃ rest, key.toList = (baseText keyPrefix).toList ++ '/' :: rest := by
  obtain ⟨rest, whole⟩ := leads
  rw [baseText]
  cases cut : Text.beforeLast? '/' keyPrefix.toList with
  | none => exact .inl ⟨rfl, Text.beforeLast?_eq_none_iff.mp cut⟩
  | some base =>
      obtain ⟨after, split, -⟩ := Text.exists_of_beforeLast? cut
      exact .inr ⟨after ++ rest, by simp [← whole, split]⟩

/-- A base that is its own path hides no object under the prefix. -/
theorem isBelow_of_isStable_baseText {key : String}
    (base_stable : StoredPath.IsStable (baseText keyPrefix)) (nonempty : key ≠ "")
    (leads : keyPrefix.toList <+: key.toList) : StoredPath.isBelow (basePath keyPrefix) key := by
  have base_eq : basePath keyPrefix = baseText keyPrefix :=
    (basePath_eq keyPrefix).trans base_stable
  rw [base_eq, StoredPath.isBelow]
  split
  · simpa using nonempty
  · next some_base =>
      obtain ⟨empty, -⟩ | ⟨rest, split⟩ := baseText_cases leads
      · simp [empty] at some_base
      · have whole : key = baseText keyPrefix ++ "/" ++ String.ofList rest := by
          simp [← String.toList_inj, split]
        rw [Text.withoutLead?_eq_some_iff.mpr whole]
        rfl

/-- The base of a prefix hides no object of a stable path. -/
theorem isBelow_basePath {key : String} (stable : StoredPath.IsStable key) (nonempty : key ≠ "")
    (leads : keyPrefix.toList <+: key.toList) : StoredPath.isBelow (basePath keyPrefix) key := by
  refine isBelow_of_isStable_baseText ?_ nonempty leads
  obtain ⟨empty, -⟩ | ⟨rest, split⟩ := baseText_cases leads
  · rw [empty]
    exact StoredPath.isStable_empty
  · have split : key.toList = (baseText keyPrefix).toList ++ '/' :: (String.ofList rest).toList := by
      simpa using split
    exact (StoredPath.isStable_of_slash stable split).1

@[simp]
theorem isAfterOffset_some_iff {token path : String} :
    isAfterOffset (some token) path = true ↔ StoredPath.ofKey token < path := by
  simp only [isAfterOffset, decide_eq_true_iff]

/-- A token is the beginning of a stable path. -/
def IsStart (token : Option String) : Prop :=
  ∀ text, token = some text → ∃ path, StoredPath.IsStable path ∧ text.toList <+: path.toList

/-- The path of such a token hides no object that is listed past the token. -/
theorem isAfterOffset_of_isLeft {token : Option String} (start : IsStart token) {name key : String}
    (left : isLeft token name) (leads : name.toList <+: key.toList) : isAfterOffset token key := by
  cases token with
  | none => rfl
  | some text =>
      obtain ⟨path, stable, text_leads⟩ := start text rfl
      have after : text < name := isLeft_some_iff.mp left
      apply isAfterOffset_some_iff.mpr
      calc
        StoredPath.ofKey text ≤ text := StoredPath.ofKey_le_of_leads stable text_leads
        _ < name := after
        _ ≤ key := Text.le_of_leads leads

/-- The name of an entry that is left can be the next token. -/
theorem isStart_of_mem_remaining (stable : bucket.IsStable) {listed : String × Entry}
    (member : listed ∈ bucket.remaining request) : IsStart (some listed.1) := by
  obtain ⟨⟨object, object_member, represents⟩, -⟩ := mem_remaining.mp member
  rintro _ ⟨⟩
  have listed_member := (bucket.feed_sublist _ _).subset object_member
  exact ⟨object.key, stable object.key (key_mem_keys listed_member),
    name_leads (rollUp_of_represents represents)⟩

/-- In a bucket of stable paths everything past the token is left. -/
theorem remaining_eq (stable : bucket.IsStable) (undisturbed : bucket.disturbance.listing = none)
    (start : IsStart request.token) :
    bucket.remaining request =
      (bucket.rolledUp request.keyPrefix request.delimiter).entries.filter
        fun listed => isLeft request.token listed.1 := by
  refine Entries.eq_of_mem_iff (bucket.remaining_ascending request)
    ((Table.ascending _).filter _) ?_
  rintro ⟨name, entry⟩
  rw [mem_remaining, List.mem_filter, mem_rolledUp]
  refine and_congr_left fun left => ?_
  simp only [mem_feed_iff undisturbed]
  constructor
  · rintro ⟨object, ⟨member, below, -⟩, represents⟩
    exact ⟨object, member, StoredPath.ne_empty_of_isBelow below, represents⟩
  · rintro ⟨object, member, nonempty, represents⟩
    have leads := name_leads (rollUp_of_represents represents)
    have prefix_leads := (prefix_leads (rollUp_of_represents represents)).trans leads
    have path_stable := stable object.key (key_mem_keys member)
    exact ⟨object, ⟨member, isBelow_basePath path_stable nonempty prefix_leads,
      isAfterOffset_of_isLeft start left leads⟩, represents⟩

end Bucket
end BucketCatalog
