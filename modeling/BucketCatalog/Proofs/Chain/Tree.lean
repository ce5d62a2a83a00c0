import BucketCatalog.Proofs.Chain.Blocks

/-!
# Walks over the folder tree

A folder is walked by reading its chain to the end and then walking every common prefix of the chain
in the same way.  Each object under a prefix is listed by the chain or lies under exactly one of its
common prefixes, so that the walk collects what a flat chain does.  A common prefix is longer than
the prefix it is found under, and this bounds the depth of the tree by the longest key.
-/

namespace BucketCatalog

open Listing

namespace Chain

/-- The objects of all pages of a chain. -/
def objects (chain : Chain) : List Listed :=
  chain.pages.flatMap fun page => page.contents.getD []

/-- The common prefixes of all pages of a chain. -/
def folders (chain : Chain) : List String :=
  chain.pages.flatMap fun page => page.commonPrefixes.getD []

end Chain

/-- What a walk over a folder tree collects, and how it comes to rest. -/
structure Collected where
  /-- The objects, those of a folder before those of the folders in it. -/
  objects : List Listed
  /-- Why there are no more of them. -/
  ending : ChainEnd

/-- Visit one folder after another, up to the first whose visit does not complete. -/
def visitAll {State : Type} (visit : String → State → Collected × State) :
    List String → State → Collected × State
  | [], state => (⟨[], .complete⟩, state)
  | folder :: folders, state =>
      match visit folder state with
      | (⟨objects, .complete⟩, state) =>
          let (rest, state) := visitAll visit folders state
          (⟨objects ++ rest.objects, rest.ending⟩, state)
      | stuck => stuck

/-- Walk over the tree below the prefix of a request, at most `depth` folders deep.  Of each folder
at most `calls` pages are asked for. -/
def Remote.collect {State : Type} (remote : Remote State) (calls : Nat) :
    Nat → Request → State → Collected × State
  | 0, _, state => (⟨[], .unfinished⟩, state)
  | depth + 1, request, state =>
      match remote.chain calls request state with
      | (chain, state) =>
          match chain.ending with
          | .complete =>
              let (inner, state) :=
                visitAll
                  (fun folder => remote.collect calls depth
                    { request with keyPrefix := folder, token := none })
                  chain.folders state
              (⟨chain.objects ++ inner.objects, inner.ending⟩, state)
          | ending => (⟨chain.objects, ending⟩, state)

section Pages

variable {α : Type} {entries : List (String × Entry)} {size : Nat}

/-- What the pages of all blocks hold is what the entries hold. -/
theorem flatMap_blockPages {project : Page → List α} {pick : String × Entry → Option α}
    (projects : ∀ entries, project (.ofEntries entries size) = (entries.take size).filterMap pick)
    (positive : 0 < size) (entries : List (String × Entry)) :
    (blockPages entries size).flatMap project = entries.filterMap pick := by
  by_cases fits : entries.length ≤ size
  · rw [blockPages_of_fits positive fits, List.flatMap_singleton, projects,
      List.take_of_length_le fits]
  · have more := not_le.mp fits
    have tail := flatMap_blockPages projects positive (entries.drop size)
    rw [blockPages_of_more positive more, List.flatMap_cons, projects, tail,
      ← List.filterMap_append, List.take_append_drop]
termination_by entries.length
decreasing_by
  rw [List.length_drop]
  omega

theorem length_blockPages_le (positive : 0 < size) :
    (blockPages entries size).length ≤ entries.length + 1 := by
  have few : (entries.length + size - 1) / size ≤ entries.length := by
    rw [Nat.div_le_iff_le_mul_add_pred positive]
    have := Nat.le_mul_of_pos_left entries.length positive
    omega
  rw [length_blockPages, blockCount]
  omega

end Pages

namespace Bucket

variable {bucket : Bucket} {request : Request} {keyPrefix delimiter folder : String}
  {object : Listed}

/-- The objects that can be listed under a prefix. -/
def under (bucket : Bucket) (keyPrefix : String) : List Listed :=
  bucket.visible.filter fun object => keyPrefix.toList <+: object.key.toList

@[simp]
theorem mem_under :
    object ∈ bucket.under keyPrefix ↔
      object ∈ bucket.visible ∧ keyPrefix.toList <+: object.key.toList := by
  simp [under]

theorem nodup_keys_under (bucket : Bucket) (keyPrefix : String) :
    ((bucket.under keyPrefix).map Listed.key).Nodup :=
  List.pairwise_map.mpr ((bucket.visible_ascending.filter _).imp fun order => order.ne)

/-- The objects that a listing hands out as themselves. -/
def loose (bucket : Bucket) (keyPrefix delimiter : String) : List Listed :=
  (bucket.rolledUp keyPrefix delimiter).entries.filterMap Entry.listed?

/-- The common prefixes that a listing hands out. -/
def folders (bucket : Bucket) (keyPrefix delimiter : String) : List String :=
  (bucket.rolledUp keyPrefix delimiter).entries.filterMap Entry.folder?

theorem mem_entries_rolledUp {listed : String × Entry} :
    listed ∈ (bucket.rolledUp keyPrefix delimiter).entries ↔
      ∃ object ∈ bucket.visible, rollUp keyPrefix delimiter object = some listed := by
  simp only [rolledUp, Listing.mem_rolledUp bucket.visible_ascending, rollUp_eq_some_iff]

theorem mem_loose :
    object ∈ bucket.loose keyPrefix delimiter ↔
      object ∈ bucket.visible ∧
        rollUp keyPrefix delimiter object = some (object.key, .object object.size) := by
  rw [loose, List.mem_filterMap]
  constructor
  · rintro ⟨⟨name, entry⟩, member, held⟩
    cases entry with
    | folder => contradiction
    | object size =>
        obtain rfl := Option.some.inj held
        obtain ⟨source, source_member, rolled⟩ := mem_entries_rolledUp.mp member
        obtain ⟨rfl, rfl⟩ := eq_of_rollUp_object rolled
        exact ⟨source_member, rolled⟩
  · rintro ⟨member, rolled⟩
    exact ⟨_, mem_entries_rolledUp.mpr ⟨object, member, rolled⟩, rfl⟩

theorem mem_folders :
    folder ∈ bucket.folders keyPrefix delimiter ↔
      ∃ object ∈ bucket.visible, rollUp keyPrefix delimiter object = some (folder, .folder) := by
  rw [folders, List.mem_filterMap, ← mem_entries_rolledUp]
  constructor
  · rintro ⟨⟨name, entry⟩, member, held⟩
    cases entry with
    | object size => contradiction
    | folder =>
        obtain rfl := Option.some.inj held
        exact member
  · exact fun member => ⟨(folder, .folder), member, rfl⟩

theorem nodup_loose (bucket : Bucket) (keyPrefix delimiter : String) :
    (bucket.loose keyPrefix delimiter).Nodup := by
  have names : ∀ entry object, Entry.listed? entry = some object → object.key = entry.1 := by
    rintro ⟨name, _ | size⟩ object picked
    · contradiction
    · rw [← Option.some.inj picked]
  exact Entries.nodup_filterMap (Table.ascending _) names

theorem nodup_folders (bucket : Bucket) (keyPrefix delimiter : String) :
    (bucket.folders keyPrefix delimiter).Nodup := by
  have names : ∀ entry folder, Entry.folder? entry = some folder → id folder = entry.1 := by
    rintro ⟨name, _ | size⟩ folder picked
    · exact (Option.some.inj picked).symm
    · contradiction
  exact Entries.nodup_filterMap (Table.ascending _) names

/-- An object lies under a common prefix exactly if it is listed as that prefix. -/
theorem leads_iff_of_mem_folders (member : folder ∈ bucket.folders keyPrefix delimiter) :
    folder.toList <+: object.key.toList ↔
      rollUp keyPrefix delimiter object = some (folder, .folder) := by
  obtain ⟨source, -, rolled⟩ := mem_folders.mp member
  exact ⟨rollUp_of_folder_leads rolled, name_leads⟩

/-- The objects under a prefix are those that are listed as themselves and those under each of the
common prefixes, none of them twice. -/
theorem perm_under (bucket : Bucket) (keyPrefix delimiter : String) :
    (bucket.loose keyPrefix delimiter ++
        (bucket.folders keyPrefix delimiter).flatMap bucket.under).Perm
      (bucket.under keyPrefix) := by
  have nodup_under : ∀ keyPrefix, (bucket.under keyPrefix).Nodup := fun keyPrefix =>
    (bucket.nodup_keys_under keyPrefix).of_map
  have apart : (bucket.folders keyPrefix delimiter).Pairwise
      (Function.onFun List.Disjoint bucket.under) := by
    refine (bucket.nodup_folders keyPrefix delimiter).imp_of_mem ?_
    intro first second first_member second_member different object here there
    have first_rolled := (leads_iff_of_mem_folders first_member).mp (mem_under.mp here).2
    have second_rolled := (leads_iff_of_mem_folders second_member).mp (mem_under.mp there).2
    rw [first_rolled] at second_rolled
    exact different (congrArg Prod.fst (Option.some.inj second_rolled))
  have distinct : (bucket.loose keyPrefix delimiter ++
      (bucket.folders keyPrefix delimiter).flatMap bucket.under).Nodup := by
    refine List.nodup_append'.mpr ⟨bucket.nodup_loose keyPrefix delimiter,
      List.nodup_flatMap.mpr ⟨fun folder _ => nodup_under folder, apart⟩, ?_⟩
    intro object here there
    obtain ⟨folder, folder_member, inside⟩ := List.mem_flatMap.mp there
    have rolled := (leads_iff_of_mem_folders folder_member).mp (mem_under.mp inside).2
    rw [(mem_loose.mp here).2] at rolled
    simp at rolled
  refine (List.perm_ext_iff_of_nodup distinct (nodup_under keyPrefix)).mpr fun object => ?_
  rw [List.mem_append, List.mem_flatMap, mem_under]
  constructor
  · rintro (here | ⟨folder, folder_member, inside⟩)
    · obtain ⟨member, rolled⟩ := mem_loose.mp here
      exact ⟨member, prefix_leads rolled⟩
    · obtain ⟨member, leads⟩ := mem_under.mp inside
      obtain ⟨source, -, rolled⟩ := mem_folders.mp folder_member
      exact ⟨member, (prefix_leads rolled).trans leads⟩
  · rintro ⟨member, leads⟩
    obtain ⟨⟨name, entry⟩, represents⟩ := exists_represents delimiter leads
    have rolled := rollUp_of_represents represents
    cases entry with
    | object size =>
        obtain ⟨rfl, rfl⟩ := eq_of_rollUp_object rolled
        exact .inl (mem_loose.mpr ⟨member, rolled⟩)
    | folder =>
        exact .inr ⟨name, mem_folders.mpr ⟨object, member, rolled⟩,
          mem_under.mpr ⟨member, name_leads rolled⟩⟩

/-- A common prefix is longer than the prefix it is found under. -/
theorem length_lt_of_mem_folders (member : folder ∈ bucket.folders keyPrefix delimiter) :
    keyPrefix.length < folder.length := by
  obtain ⟨source, -, rolled⟩ := mem_folders.mp member
  cases represents_of_rollUp rolled with
  | folder before after marked =>
      have positive : 0 < delimiter.length := by
        rw [← String.length_toList, List.length_pos_iff]
        simpa using marked
      simp only [String.length_append]
      omega

theorem folders_flat (bucket : Bucket) (keyPrefix : String) : bucket.folders keyPrefix "" = [] := by
  refine List.eq_nil_iff_forall_not_mem.mpr fun folder member => ?_
  obtain ⟨source, -, rolled⟩ := mem_folders.mp member
  cases represents_of_rollUp rolled with
  | folder before after marked => exact absurd rfl marked

/-- With a call for each object and one more, a chain without a token is complete. -/
theorem chain_complete (stable : bucket.IsStable)
    (undisturbed : bucket.disturbance.listing = none) (own : request.bucket = bucket.name)
    (first : request.token = none) {calls : Nat} (enough : bucket.visible.length < calls) :
    ∃ chain, Bucket.remote.chain calls request bucket = (chain, bucket) ∧
      chain.ending = .complete ∧
      chain.objects = bucket.loose request.keyPrefix request.delimiter ∧
      chain.folders = bucket.folders request.keyPrefix request.delimiter := by
  have start : IsStart request.token := by simp [IsStart, first]
  have whole : bucket.remaining request =
      (bucket.rolledUp request.keyPrefix request.delimiter).entries := by
    simp [remaining_eq stable undisturbed start, first]
  have few : (bucket.remaining request).length ≤ bucket.visible.length := by
    rw [whole]
    refine (Table.size_insertMany_le _).trans ?_
    simpa [Table.size, Table.empty] using List.length_filterMap_le _ bucket.visible
  have short : (blockPages (bucket.remaining request) request.pageSize).length ≤ calls := by
    have : (blockPages (bucket.remaining request) request.pageSize).length ≤
        (bucket.remaining request).length + 1 := length_blockPages_le request.pageSize_pos
    omega
  refine ⟨_, chain_eq stable undisturbed own start calls, if_pos short, ?_, ?_⟩
  · rw [Chain.objects, List.take_of_length_le short, loose, ← whole]
    refine flatMap_blockPages (fun entries => ?_) request.pageSize_pos _
    exact getD_nonEmpty? _
  · rw [Chain.folders, List.take_of_length_le short, folders, ← whole]
    refine flatMap_blockPages (fun entries => ?_) request.pageSize_pos _
    exact getD_nonEmpty? _

end Bucket

/-- Visits that each complete come together to a visit that does. -/
theorem visitAll_complete {State : Type} {visit : String → State → Collected × State}
    {state : State} {holds : String → List Listed} {folders : List String}
    (visits : ∀ folder ∈ folders, ∃ objects, visit folder state = (⟨objects, .complete⟩, state) ∧
      objects.Perm (holds folder)) :
    ∃ objects, visitAll visit folders state = (⟨objects, .complete⟩, state) ∧
      objects.Perm (folders.flatMap holds) := by
  induction folders with
  | nil => exact ⟨[], rfl, .nil⟩
  | cons folder folders ih =>
      obtain ⟨objects, visited, here⟩ := visits folder List.mem_cons_self
      obtain ⟨others, visited_all, there⟩ :=
        ih fun other member => visits other (List.mem_cons_of_mem _ member)
      refine ⟨objects ++ others, ?_, here.append there⟩
      simp only [visitAll, visited, visited_all]

namespace Bucket

variable {bucket : Bucket} {request : Request}

/-- A walk over a folder completes if its walks over the common prefixes do. -/
theorem collect_of_visits (stable : bucket.IsStable)
    (undisturbed : bucket.disturbance.listing = none) (own : request.bucket = bucket.name)
    (first : request.token = none) {calls depth : Nat} (enough : bucket.visible.length < calls)
    (visits : ∀ folder ∈ bucket.folders request.keyPrefix request.delimiter,
      ∃ objects,
        Bucket.remote.collect calls depth { request with keyPrefix := folder, token := none }
            bucket = (⟨objects, .complete⟩, bucket) ∧
          objects.Perm (bucket.under folder)) :
    ∃ objects, Bucket.remote.collect calls (depth + 1) request bucket =
        (⟨objects, .complete⟩, bucket) ∧ objects.Perm (bucket.under request.keyPrefix) := by
  obtain ⟨chain, read, complete, objects_eq, folders_eq⟩ :=
    chain_complete stable undisturbed own first enough
  obtain ⟨inner, visited, inside⟩ := visitAll_complete visits
  refine ⟨chain.objects ++ inner, ?_, ?_⟩
  · simp only [Remote.collect, read, complete, folders_eq, visited]
  · rw [objects_eq]
    exact (inside.append_left _).trans
      (bucket.perm_under request.keyPrefix request.delimiter)

/-- A walk that may go as deep as its longest key completes. -/
theorem collect_complete (stable : bucket.IsStable)
    (undisturbed : bucket.disturbance.listing = none) (own : request.bucket = bucket.name)
    (first : request.token = none) {calls : Nat} (enough : bucket.visible.length < calls)
    {depth : Nat}
    (bound : ∀ object ∈ bucket.under request.keyPrefix,
      object.key.length ≤ request.keyPrefix.length + depth) :
    ∃ objects, Bucket.remote.collect calls (depth + 1) request bucket =
        (⟨objects, .complete⟩, bucket) ∧ objects.Perm (bucket.under request.keyPrefix) := by
  induction depth generalizing request with
  | zero =>
      refine collect_of_visits stable undisturbed own first enough fun folder member => ?_
      -- A common prefix would lead a key that is longer than the prefix.
      have longer := length_lt_of_mem_folders member
      obtain ⟨object, object_member, rolled⟩ := mem_folders.mp member
      have leads := name_leads rolled
      have short := bound object (mem_under.mpr ⟨object_member, (prefix_leads rolled).trans leads⟩)
      have := leads.length_le
      simp only [String.length_toList] at this
      omega
  | succ depth ih =>
      refine collect_of_visits stable undisturbed own first enough fun folder member => ?_
      have longer := length_lt_of_mem_folders member
      obtain ⟨source, -, rolled⟩ := mem_folders.mp member
      refine @ih { request with keyPrefix := folder, token := none } own rfl ?_
      intro object inside
      obtain ⟨object_member, leads⟩ := mem_under.mp inside
      have short :=
        bound object (mem_under.mpr ⟨object_member, (prefix_leads rolled).trans leads⟩)
      simp only
      omega

theorem exists_longest (objects : List Listed) :
    ∃ longest, ∀ object ∈ objects, object.key.length ≤ longest := by
  induction objects with
  | nil => exact ⟨0, by simp⟩
  | cons object objects ih =>
      obtain ⟨longest, bound⟩ := ih
      refine ⟨max object.key.length longest, List.forall_mem_cons.mpr ⟨by omega, ?_⟩⟩
      intro other member
      have := bound other member
      omega

/--
The walk over the folder tree below a prefix, with any delimiter and page size, comes to its end and
collects each object under the prefix once, those at the empty path apart.  These are the objects
that the chain without a delimiter hands out.
-/
theorem collect_eq_flat (stable : bucket.IsStable)
    (undisturbed : bucket.disturbance.listing = none) (own : request.bucket = bucket.name)
    (first : request.token = none) :
    ∃ enough, ∀ calls depth, enough ≤ calls → enough ≤ depth →
      ∃ objects flat,
        Bucket.remote.collect calls depth request bucket = (⟨objects, .complete⟩, bucket) ∧
          (objects.map Listed.key).Nodup ∧
          (∀ object, object ∈ objects ↔
            bucket.Stores object ∧ object.key ≠ "" ∧
              request.keyPrefix.toList <+: object.key.toList) ∧
          Bucket.remote.chain calls { request with delimiter := "" } bucket = (flat, bucket) ∧
          flat.ending = .complete ∧ flat.folders = [] ∧ flat.objects.Perm objects := by
  obtain ⟨longest, bound⟩ := exists_longest bucket.visible
  refine ⟨bucket.visible.length + longest + 1, fun calls depth calls_enough depth_enough => ?_⟩
  obtain ⟨depth, rfl⟩ := Nat.exists_eq_add_one_of_ne_zero (Nat.ne_zero_of_lt depth_enough)
  have enough : bucket.visible.length < calls := by omega
  obtain ⟨objects, collected, perm⟩ :
      ∃ objects, Bucket.remote.collect calls (depth + 1) request bucket =
        (⟨objects, .complete⟩, bucket) ∧ objects.Perm (bucket.under request.keyPrefix) := by
    refine collect_complete stable undisturbed own first enough fun object member => ?_
    have := bound object (mem_under.mp member).1
    omega
  obtain ⟨flat, read, complete, objects_eq, folders_eq⟩ :=
    @chain_complete bucket { request with delimiter := "" } stable undisturbed own first calls
      enough
  have flat_perm := bucket.perm_under request.keyPrefix ""
  rw [folders_flat] at folders_eq flat_perm
  rw [List.flatMap_nil, List.append_nil, ← objects_eq] at flat_perm
  refine ⟨objects, flat, collected, ?_, fun object => ?_, read, complete, folders_eq,
    flat_perm.trans perm.symm⟩
  · exact ((perm.map Listed.key).nodup_iff).mpr (bucket.nodup_keys_under request.keyPrefix)
  · rw [perm.mem_iff]
    simp [visible, mem_listed_iff, and_assoc]

theorem collect_eq_flat_nested :
    nested.IsStable ∧ nested.disturbance.listing = none ∧ nestedRequest.bucket = nested.name ∧
      nestedRequest.token = none ∧
      ∃ enough, ∀ calls depth, enough ≤ calls → enough ≤ depth →
        ∃ objects,
          Bucket.remote.collect calls depth nestedRequest nested =
              (⟨objects, .complete⟩, nested) ∧
            (objects.map Listed.key).Nodup ∧ ⟨"d/a/2", 0⟩ ∈ objects := by
  have stable : nested.IsStable := by decide +kernel
  have held : nested.Stores ⟨"d/a/2", 0⟩ := mem_listed_iff.mp (by decide +kernel)
  have leads : nestedRequest.keyPrefix.toList <+: "d/a/2".toList := by decide +kernel
  obtain ⟨enough, collects⟩ := @collect_eq_flat nested nestedRequest stable rfl rfl rfl
  refine ⟨stable, rfl, rfl, rfl, enough, fun calls depth calls_enough depth_enough => ?_⟩
  obtain ⟨objects, flat, collected, distinct, all, -⟩ :=
    collects calls depth calls_enough depth_enough
  exact ⟨objects, collected, distinct, (all _).mpr ⟨held, by decide, leads⟩⟩

/-- The walk over all of a bucket comes to its end without the object at the empty path. -/
theorem collect_omits_empty_path :
    rootOnly.IsStable ∧ rootOnly.Stores ⟨"", 1⟩ ∧
      (Request.ofPrefix "b" "").keyPrefix.toList <+: "".toList ∧
      ∀ calls depth,
        Bucket.remote.collect (calls + 1) (depth + 1) (Request.ofPrefix "b" "") rootOnly =
          (⟨[], .complete⟩, rootOnly) := by
  have stored : rootOnly.Stores ⟨"", 1⟩ := mem_listed_iff.mp (by decide +kernel)
  refine ⟨by decide +kernel, stored, List.prefix_rfl, fun calls depth => ?_⟩
  have empty : rootOnly.list (Request.ofPrefix "b" "") = .ok ⟨none, none, false, none⟩ := by
    decide +kernel
  simp [Remote.collect, Remote.chain, remote, empty, Page.next?, Chain.folders, Chain.objects,
    visitAll]

end Bucket
end BucketCatalog
