import BucketCatalog.Proofs.Chain

/-!
# Chains over a bucket that is written to

Others put and delete objects between the calls of a chain.  No name is handed out twice, and an
object that every call meets is handed out exactly once, as itself or as its common prefix.  What
carries the inductions is that a call reads everything past its token and nothing else, so that a
write adds or removes only what is still left.
-/

namespace BucketCatalog

open Listing

/-- A write to a bucket. -/
inductive Edit where
  /-- Put an object at the path of a key. -/
  | put (key : String) (object : Stored)
  /-- Remove what is at the path of a key. -/
  | delete (key : String)

/-- The key that is written to. -/
def Edit.key : Edit → String
  | .put key _ => key
  | .delete key => key

namespace Bucket

/-- The bucket after a write. -/
def edit (bucket : Bucket) : Edit → Bucket
  | .put key object => bucket.put key object
  | .delete key => bucket.delete key

/-- The bucket after writes, one after another. -/
def edited (bucket : Bucket) (edits : List Edit) : Bucket :=
  edits.foldl edit bucket

variable {bucket : Bucket}

theorem edited_append (first second : List Edit) :
    bucket.edited (first ++ second) = (bucket.edited first).edited second :=
  List.foldl_append

@[simp]
theorem edit_name (write : Edit) : (bucket.edit write).name = bucket.name := by
  cases write <;> rfl

@[simp]
theorem edit_disturbance (write : Edit) : (bucket.edit write).disturbance = bucket.disturbance := by
  cases write <;> rfl

@[simp]
theorem edited_name (edits : List Edit) : (bucket.edited edits).name = bucket.name := by
  induction edits generalizing bucket with
  | nil => rfl
  | cons write edits ih =>
      rw [edited, List.foldl_cons, ← edited, ih, edit_name]

@[simp]
theorem edited_disturbance (edits : List Edit) :
    (bucket.edited edits).disturbance = bucket.disturbance := by
  induction edits generalizing bucket with
  | nil => rfl
  | cons write edits ih =>
      rw [edited, List.foldl_cons, ← edited, ih, edit_disturbance]

/-- What holds of all paths of a bucket still does after a write to a path of which it holds. -/
theorem forall_keys_edit {holds : String → Prop} (paths : ∀ path ∈ bucket.objects.keys, holds path)
    {write : Edit} (path : holds (StoredPath.ofKey write.key)) :
    ∀ path ∈ (bucket.edit write).objects.keys, holds path := by
  intro key member
  obtain ⟨entry, entry_member, rfl⟩ := List.mem_map.mp member
  cases write with
  | put written object =>
      rcases Entries.mem_insert entry_member with rfl | old
      · exact path
      · exact paths entry.1 (List.mem_map_of_mem old)
  | delete written =>
      exact paths entry.1 (List.mem_map_of_mem (Entries.mem_of_mem_erase entry_member))

theorem forall_keys_edited {holds : String → Prop}
    (paths : ∀ path ∈ bucket.objects.keys, holds path) {edits : List Edit}
    (written : ∀ write ∈ edits, holds (StoredPath.ofKey write.key)) :
    ∀ path ∈ (bucket.edited edits).objects.keys, holds path := by
  induction edits generalizing bucket with
  | nil => exact paths
  | cons write edits ih =>
      rw [Bucket.edited, List.foldl_cons, ← Bucket.edited]
      obtain ⟨first, later⟩ := List.forall_mem_cons.mp written
      exact ih (forall_keys_edit paths first) later

/-- Writes to stable paths leave all paths stable. -/
theorem IsStable.edited (stable : bucket.IsStable) {edits : List Edit}
    (paths : ∀ write ∈ edits, StoredPath.IsStable write.key) : (bucket.edited edits).IsStable :=
  forall_keys_edited stable fun write member => by
    have path := paths write member
    have same : StoredPath.ofKey write.key = write.key := path
    rwa [same]

end Bucket

/-- A bucket that others write to between the calls of a reader. -/
structure Contested where
  /-- The bucket after the call before. -/
  bucket : Bucket
  /-- The writes before each of the calls that follow. -/
  pending : List (List Edit)

namespace Contested

/-- The bucket that the next call meets. -/
def met (contested : Contested) : Bucket :=
  contested.bucket.edited (contested.pending.headD [])

/-- What is left after the next call. -/
def after (contested : Contested) : Contested where
  bucket := contested.met
  pending := contested.pending.tail

/-- The bucket that a call meets after a number of others. -/
def metAfter (contested : Contested) (calls : Nat) : Bucket :=
  contested.bucket.edited (contested.pending.take (calls + 1)).flatten

/-- A contested bucket as a remote store. -/
def remote : Remote Contested where
  list := fun request contested => (contested.met.list request, contested.after)
  retrieve := fun name key contested => (contested.met.retrieve name key, contested.after)

/-- All paths, those in the bucket and those written to, are paths of themselves. -/
structure IsStable (contested : Contested) : Prop where
  /-- The paths in the bucket. -/
  bucket : contested.bucket.IsStable
  /-- The paths written to. -/
  pending : ∀ edits ∈ contested.pending, ∀ write ∈ edits, StoredPath.IsStable write.key

variable {contested : Contested} {request : Request}

@[simp]
theorem metAfter_zero : contested.metAfter 0 = contested.met := by
  rw [metAfter, met]
  cases contested.pending <;> simp

@[simp]
theorem metAfter_after (calls : Nat) :
    contested.after.metAfter calls = contested.metAfter (calls + 1) := by
  rw [metAfter, metAfter, after, met, ← Bucket.edited_append]
  cases contested.pending <;> simp

theorem IsStable.met (stable : contested.IsStable) : contested.met.IsStable := by
  apply stable.bucket.edited
  cases pending_eq : contested.pending with
  | nil => simp
  | cons edits pending => exact stable.pending edits (by simp [pending_eq])

theorem IsStable.after (stable : contested.IsStable) : contested.after.IsStable :=
  ⟨stable.met, fun edits member => stable.pending edits (List.mem_of_mem_tail member)⟩

/-- What every call of a chain relies on. -/
structure Serves (contested : Contested) (request : Request) : Prop where
  /-- All paths are paths of themselves. -/
  stable : contested.IsStable
  /-- Listings do not fail. -/
  undisturbed : contested.bucket.disturbance.listing = none
  /-- The request names the bucket. -/
  own : request.bucket = contested.bucket.name
  /-- The token is the beginning of a stable path. -/
  start : Bucket.IsStart request.token

theorem Serves.answer (serves : contested.Serves request) :
    Contested.remote.list request contested =
      (.ok (.ofEntries (contested.met.remaining request) request.pageSize), contested.after) := by
  have own : request.bucket = contested.met.name := by simp [met, serves.own]
  have undisturbed : contested.met.disturbance.listing = none := by simp [met, serves.undisturbed]
  simp only [remote, Bucket.list_eq own undisturbed]

/-- A call keeps what the next call relies on. -/
theorem Serves.after (serves : contested.Serves request) {last : String × Entry}
    (member : last ∈ contested.met.remaining request) :
    contested.after.Serves { request with token := some last.1 } where
  stable := serves.stable.after
  undisturbed := by simp [Contested.after, met, serves.undisturbed]
  own := by simp [Contested.after, met, serves.own]
  start := Bucket.isStart_of_mem_remaining serves.stable.met member

theorem Serves.mem_remaining (serves : contested.Serves request) {listed : String × Entry} :
    listed ∈ contested.met.remaining request ↔
      (∃ object ∈ contested.met.listed, object.key ≠ "" ∧
        Represents request.keyPrefix request.delimiter object listed) ∧
          isLeft request.token listed.1 := by
  have undisturbed : contested.met.disturbance.listing = none := by simp [met, serves.undisturbed]
  rw [Bucket.remaining_eq serves.stable.met undisturbed serves.start, List.mem_filter,
    Bucket.mem_rolledUp]

/-- The name of an object that a call meets, perhaps in another size, is left there. -/
theorem Serves.exists_mem_remaining (serves : contested.Serves request) {object : Listed}
    {name : String} {entry : Entry} (nonempty : object.key ≠ "")
    (represents : Represents request.keyPrefix request.delimiter object (name, entry))
    (left : isLeft request.token name) (present : object.key ∈ contested.met.objects.keys) :
    ∃ size entry, (name, entry) ∈ contested.met.remaining request ∧
      Represents request.keyPrefix request.delimiter ⟨object.key, size⟩ (name, entry) := by
  obtain ⟨⟨key, stored⟩, stored_member, key_eq⟩ := List.mem_map.mp present
  obtain rfl : key = object.key := key_eq
  let met_object : Listed := ⟨object.key, stored.size⟩
  obtain ⟨entry, represents_met⟩ := represents.of_key_eq met_object rfl
  have listed_member : met_object ∈ contested.met.listed :=
    List.mem_map.mpr ⟨_, stored_member, rfl⟩
  exact ⟨stored.size, entry, serves.mem_remaining.mpr
    ⟨⟨_, listed_member, nonempty, represents_met⟩, left⟩, represents_met⟩

/-- What a chain hands out is left after its token and stands for objects. -/
theorem of_mem_chain (serves : contested.Serves request) {calls : Nat} {listed : String × Entry}
    (member : listed ∈ (Contested.remote.chain calls request contested).1.listed) :
    isLeft request.token listed.1 ∧
      ∃ object, Represents request.keyPrefix request.delimiter object listed := by
  induction calls generalizing contested request with
  | zero => simp [Remote.chain, Chain.listed] at member
  | succ calls ih =>
      have of_page : listed ∈
          (Page.ofEntries (contested.met.remaining request) request.pageSize).listed →
            isLeft request.token listed.1 ∧
              ∃ object, Represents request.keyPrefix request.delimiter object listed := by
        intro on_page
        have kept := (listed_ofEntries_perm _ _).subset on_page
        obtain ⟨⟨object, -, -, represents⟩, left⟩ :=
          serves.mem_remaining.mp (List.mem_of_mem_take kept)
        exact ⟨left, object, represents⟩
      obtain ⟨fits, ended⟩ | ⟨front, last, more, block, went_on⟩ :=
        Remote.chain_of_answer calls serves.answer
      · rw [ended] at member
        exact of_page (by simpa [Chain.listed] using member)
      · rw [went_on] at member
        rcases List.mem_append.mp member with on_page | later
        · exact of_page on_page
        · have last_left := (serves.mem_remaining.mp (last_mem block)).2
          obtain ⟨left, found⟩ := ih (serves.after (last_mem block)) later
          exact ⟨isLeft_trans last_left left, found⟩

/-- No name is handed out twice. -/
theorem chain_names_nodup (serves : contested.Serves request) (calls : Nat) :
    ((Contested.remote.chain calls request contested).1.listed.map Prod.fst).Nodup := by
  induction calls generalizing contested request with
  | zero => simp [Remote.chain, Chain.listed]
  | succ calls ih =>
      have ascending := contested.met.remaining_ascending request
      have kept := listed_ofEntries_perm (contested.met.remaining request) request.pageSize
      have page_nodup :
          ((Page.ofEntries (contested.met.remaining request) request.pageSize).listed.map
            Prod.fst).Nodup := by
        rw [(kept.map Prod.fst).nodup_iff]
        apply List.pairwise_map.mpr
        exact (ascending.sublist (List.take_sublist _ _)).imp fun order => order.ne
      obtain ⟨fits, ended⟩ | ⟨front, last, more, block, went_on⟩ :=
        Remote.chain_of_answer calls serves.answer
      · rw [ended]
        simpa [Chain.listed] using page_nodup
      · have next_serves := serves.after (last_mem block)
        rw [went_on, Chain.listed_prepend, List.map_append, List.nodup_append]
        refine ⟨page_nodup, ih next_serves, ?_⟩
        rintro _ on_page _ later rfl
        obtain ⟨listed, listed_member, rfl⟩ := List.mem_map.mp on_page
        obtain ⟨other, other_member, same⟩ := List.mem_map.mp later
        have earlier := name_le_last ascending block (kept.subset listed_member)
        have after_last := isLeft_some_iff.mp (of_mem_chain next_serves other_member).1
        exact absurd earlier (not_le_of_gt (same ▸ after_last))

/-- A complete chain hands out an entry for every object that all of its calls meet. -/
theorem exists_mem_chain (serves : contested.Serves request) {calls : Nat}
    (complete : (Contested.remote.chain calls request contested).1.ending = .complete)
    {object : Listed} {name : String} {entry : Entry} (nonempty : object.key ≠ "")
    (represents : Represents request.keyPrefix request.delimiter object (name, entry))
    (left : isLeft request.token name)
    (present : ∀ index < (Contested.remote.chain calls request contested).1.pages.length,
      object.key ∈ (contested.metAfter index).objects.keys) :
    ∃ size entry, (name, entry) ∈ (Contested.remote.chain calls request contested).1.listed ∧
      Represents request.keyPrefix request.delimiter ⟨object.key, size⟩ (name, entry) := by
  induction calls generalizing contested request with
  | zero => simp [Remote.chain] at complete
  | succ calls ih =>
      have kept := listed_ofEntries_perm (contested.met.remaining request) request.pageSize
      obtain ⟨fits, ended⟩ | ⟨front, last, more, block, went_on⟩ :=
        Remote.chain_of_answer calls serves.answer
      · rw [ended] at present ⊢
        obtain ⟨size, entry, member, represents_met⟩ :=
          serves.exists_mem_remaining nonempty represents left
            (by simpa using present 0 (by simp))
        refine ⟨size, entry, ?_, represents_met⟩
        rw [← List.take_of_length_le fits] at member
        simpa [Chain.listed] using kept.mem_iff.mpr member
      · rw [went_on] at present complete ⊢
        obtain ⟨size, entry, member, represents_met⟩ :=
          serves.exists_mem_remaining nonempty represents left
            (by simpa using present 0 (by simp [Chain.prepend]))
        rw [← List.take_append_drop request.pageSize (contested.met.remaining request)] at member
        simp only [Chain.listed_prepend, List.mem_append]
        rcases List.mem_append.mp member with here | later
        · exact ⟨size, entry, .inl (kept.mem_iff.mpr here), represents_met⟩
        · have ascending := contested.met.remaining_ascending request
          have still_left : isLeft (some last.1) name :=
            isLeft_some_iff.mpr (last_lt_name ascending block later)
          obtain ⟨size, entry, found, represents_found⟩ :=
            @ih contested.after { request with token := some last.1 }
              (serves.after (last_mem block)) complete represents still_left fun index bound => by
                have met_later := present (index + 1) (by simpa [Chain.prepend] using bound)
                simpa using met_later
          exact ⟨size, entry, .inr found, represents_found⟩

/-- Calls on a contested bucket do not fail. -/
theorem chain_ending (serves : contested.Serves request) (calls : Nat) :
    (Contested.remote.chain calls request contested).1.ending = .complete ∨
      (Contested.remote.chain calls request contested).1.ending = .unfinished := by
  induction calls generalizing contested request with
  | zero => exact .inr rfl
  | succ calls ih =>
      obtain ⟨fits, ended⟩ | ⟨front, last, more, block, went_on⟩ :=
        Remote.chain_of_answer calls serves.answer
      · rw [ended]
        exact .inl rfl
      · rw [went_on]
        exact ih (serves.after (last_mem block))

/-- Of the entries of a chain as many as have its name stand for an object. -/
theorem countP_standsFor (serves : contested.Serves request) (calls : Nat) {object : Listed}
    {name : String} {entry : Entry}
    (represents : Represents request.keyPrefix request.delimiter object (name, entry)) :
    (Contested.remote.chain calls request contested).1.listed.countP (standsFor object.key) =
      ((Contested.remote.chain calls request contested).1.listed.map Prod.fst).count name := by
  rw [List.count, List.countP_map]
  refine List.countP_congr fun listed member => ?_
  obtain ⟨other, represents_other⟩ := (of_mem_chain serves member).2
  simpa using standsFor_iff represents represents_other

/--
Whatever is written between its calls, a chain without a token hands out no name twice, and once it
is complete it has handed out exactly one entry for every object under the prefix that all of its
calls met: the entry that the object is listed as.
-/
theorem chain_exactly_once (stable : contested.IsStable)
    (undisturbed : contested.bucket.disturbance.listing = none)
    (own : request.bucket = contested.bucket.name) (first : request.token = none) (calls : Nat) :
    ((Contested.remote.chain calls request contested).1.ending = .complete ∨
        (Contested.remote.chain calls request contested).1.ending = .unfinished) ∧
      ((Contested.remote.chain calls request contested).1.listed.map Prod.fst).Nodup ∧
      ((Contested.remote.chain calls request contested).1.ending = .complete →
        ∀ key : String, key ≠ "" → request.keyPrefix.toList <+: key.toList →
          (∀ index < (Contested.remote.chain calls request contested).1.pages.length,
            key ∈ (contested.metAfter index).objects.keys) →
          (Contested.remote.chain calls request contested).1.listed.countP (standsFor key) = 1 ∧
            ∃ size, ∃ listed ∈ (Contested.remote.chain calls request contested).1.listed,
              Represents request.keyPrefix request.delimiter ⟨key, size⟩ listed) := by
  have serves : contested.Serves request :=
    ⟨stable, undisturbed, own, by simp [Bucket.IsStart, first]⟩
  have distinct := chain_names_nodup serves calls
  refine ⟨chain_ending serves calls, distinct, ?_⟩
  intro complete key nonempty leads present
  let object : Listed := ⟨key, 0⟩
  have under : request.keyPrefix.toList <+: object.key.toList := leads
  obtain ⟨⟨name, entry⟩, represents⟩ := exists_represents request.delimiter under
  obtain ⟨size, entry, member, represents_found⟩ :=
    exists_mem_chain serves complete nonempty represents (by simp [first]) present
  refine ⟨?_, size, (name, entry), member, represents_found⟩
  rw [countP_standsFor serves calls represents]
  exact List.count_eq_one_of_mem distinct (List.mem_map_of_mem member)

/-- A folder that is deleted after its name was handed out as a token. -/
def emptied : Contested where
  bucket := Bucket.ofKeys "b" ["d/a/1", "d/a/2", "d/b", "d/c"]
  pending := [[], [.delete "d/a/1", .delete "d/a/2", .put "d/0" ⟨none, none, []⟩], [.delete "d/b"]]

/-- The first page of one entry under a folder. -/
def emptiedRequest : Request :=
  { Request.ofPrefix "b" "d/" with maxKeys := 1 }

theorem chain_exactly_once_emptied :
    emptied.IsStable ∧ emptied.bucket.disturbance.listing = none ∧
      emptiedRequest.bucket = emptied.bucket.name ∧ emptiedRequest.token = none ∧
      (Contested.remote.chain 4 emptiedRequest emptied).1.ending = .complete ∧
      emptiedRequest.keyPrefix.toList <+: "d/c".toList ∧
      (∀ index < (Contested.remote.chain 4 emptiedRequest emptied).1.pages.length,
        "d/c" ∈ (emptied.metAfter index).objects.keys) ∧
      (Contested.remote.chain 4 emptiedRequest emptied).1.listed.countP (standsFor "d/c") = 1 := by
  have stable : emptied.IsStable := ⟨by decide +kernel, by decide +kernel⟩
  have complete : (Contested.remote.chain 4 emptiedRequest emptied).1.ending = .complete := by
    decide +kernel
  have leads : emptiedRequest.keyPrefix.toList <+: "d/c".toList := by decide +kernel
  have present : ∀ index < (Contested.remote.chain 4 emptiedRequest emptied).1.pages.length,
      "d/c" ∈ (emptied.metAfter index).objects.keys := by
    decide +kernel
  have law := @chain_exactly_once emptied emptiedRequest stable rfl rfl rfl 4
  exact ⟨stable, rfl, rfl, rfl, complete, leads, present,
    (law.2.2 complete "d/c" (by decide) leads present).1⟩

/-- The bucket whose one object is at the empty path, to which nothing is written. -/
def unnamed : Contested where
  bucket := .rootOnly
  pending := []

/-- The object at the empty path is met by every call, and no entry stands for it. -/
theorem chain_omits_empty_path :
    unnamed.IsStable ∧ unnamed.bucket.disturbance.listing = none ∧
      (Contested.remote.chain 1 (Request.ofPrefix "b" "") unnamed).1.ending = .complete ∧
      (Request.ofPrefix "b" "").keyPrefix.toList <+: "".toList ∧
      (∀ index < (Contested.remote.chain 1 (Request.ofPrefix "b" "") unnamed).1.pages.length,
        "" ∈ (unnamed.metAfter index).objects.keys) ∧
      (Contested.remote.chain 1 (Request.ofPrefix "b" "") unnamed).1.listed.countP
        (standsFor "") ≠ 1 := by
  refine ⟨⟨by decide +kernel, by decide +kernel⟩, rfl, ?_, ?_, ?_, ?_⟩ <;> decide +kernel

end Contested
end BucketCatalog
