import BucketCatalog.Proofs.RollUp
import BucketCatalog.Proofs.Table
import BucketCatalog.Proofs.Text.Bytes

/-!
# Gathering entries

`rolledUp` is the reference for a listing: everything that objects are listed as, each name once and
in byte order.  Reading objects in byte order and stopping early gathers the first entries of it,
those that are passed apart, because a later object is never listed under an earlier name.  Whatever
would come after the place where it stops, a failure or more objects, makes no difference to it.
Byte order is that of texts and that of their bytes, which are the same.
-/

namespace BucketCatalog
namespace Listing

/-- Everything that objects are listed as, each name once and in byte order. -/
def rolledUp (keyPrefix delimiter : String) (objects : List Listed) : Table Entry :=
  .ofList (objects.filterMap (rollUp keyPrefix delimiter))

/-- Objects in strict byte order of their keys. -/
def Ascending (objects : List Listed) : Prop :=
  objects.Pairwise fun first second => first.key < second.key

theorem Ascending.eq_of_key_eq {objects : List Listed} (ascending : Ascending objects)
    {first second : Listed} (first_member : first ∈ objects) (second_member : second ∈ objects)
    (same : first.key = second.key) : first = second := by
  have distinct : (objects.map Listed.key).Nodup :=
    List.pairwise_map.mpr (ascending.imp fun order => order.ne)
  exact List.inj_on_of_nodup_map distinct first_member second_member same

/-- The entries of the reference are what the objects are listed as. -/
theorem mem_rolledUp {keyPrefix delimiter : String} {objects : List Listed}
    (ascending : Ascending objects) {entry : String × Entry} :
    entry ∈ (rolledUp keyPrefix delimiter objects).entries ↔
      ∃ object ∈ objects, Represents keyPrefix delimiter object entry := by
  have single : ∀ first ∈ objects.filterMap (rollUp keyPrefix delimiter),
      ∀ second ∈ objects.filterMap (rollUp keyPrefix delimiter),
        first.1 = second.1 → first = second := by
    rintro ⟨name, entry⟩ first_member ⟨_, other⟩ second_member rfl
    obtain ⟨first, first_object, rolled⟩ := List.mem_filterMap.mp first_member
    obtain ⟨second, second_object, rolled_other⟩ := List.mem_filterMap.mp second_member
    have same := entry_eq_of_name_eq
      (ascending.eq_of_key_eq first_object second_object) rolled rolled_other
    rw [same]
  rw [rolledUp, Table.mem_entries_ofList single, List.mem_filterMap]
  simp only [rollUp_eq_some_iff]

/-- Hold the entries of all objects, each name once. -/
def gatherAll (bounds : Bounds) : Table Entry → List Listed → Table Entry
  | held, [] => held
  | held, object :: rest =>
      match rollUp bounds.keyPrefix bounds.delimiter object with
      | none => gatherAll bounds held rest
      | some (name, entry) =>
          if bounds.isPassed name || held.contains name then gatherAll bounds held rest
          else gatherAll bounds (held.insert name entry) rest

variable {bounds : Bounds} {held : Table Entry} {objects : List Listed}

/-- No object is listed under a name before one that is held. -/
def Past (bounds : Bounds) (held : Table Entry) (objects : List Listed) : Prop :=
  ∀ entry ∈ held.entries, ∀ object ∈ objects, ∀ name other,
    rollUp bounds.keyPrefix bounds.delimiter object = some (name, other) → entry.1 ≤ name

theorem past_empty : Past bounds .empty objects := by
  intro entry member
  simp [Table.empty] at member

theorem Past.tail {object : Listed} (past : Past bounds held (object :: objects)) :
    Past bounds held objects :=
  fun entry member other other_member =>
    past entry member other (List.mem_cons_of_mem _ other_member)

/-- A name that is not held yet comes after all names that are. -/
theorem Past.insert_eq {object : Listed} {name : String} {entry : Entry}
    (past : Past bounds held (object :: objects))
    (rolled : rollUp bounds.keyPrefix bounds.delimiter object = some (name, entry))
    (absent : held.contains name = false) :
    (held.insert name entry).entries = held.entries ++ [(name, entry)] := by
  apply Entries.insert_of_last
  intro other member
  refine lt_of_le_of_ne (past other member object List.mem_cons_self name entry rolled) ?_
  rintro rfl
  have present : held.contains other.1 := Table.contains_iff.mpr ⟨other.2, member⟩
  simp [absent] at present

theorem Past.insert {object : Listed} {name : String} {entry : Entry}
    (past : Past bounds held (object :: objects)) (ascending : Ascending (object :: objects))
    (rolled : rollUp bounds.keyPrefix bounds.delimiter object = some (name, entry)) :
    Past bounds (held.insert name entry) objects := by
  intro other member later later_member other_name other_entry rolled_other
  rcases Table.mem_entries_insert.mp member with rfl | ⟨member, -⟩
  · have order := (List.pairwise_cons.mp ascending).1 later later_member
    exact name_le_name order.le rolled rolled_other
  · exact past.tail other member later later_member other_name other_entry rolled_other

/-- What is held stays at the front of all entries. -/
theorem entries_prefix_gatherAll (ascending : Ascending objects) (past : Past bounds held objects) :
    held.entries <+: (gatherAll bounds held objects).entries := by
  induction objects generalizing held with
  | nil => exact List.prefix_rfl
  | cons object objects ih =>
      have tail := (List.pairwise_cons.mp ascending).2
      rw [gatherAll]
      cases rolled : rollUp bounds.keyPrefix bounds.delimiter object with
      | none => exact ih tail past.tail
      | some listed =>
          obtain ⟨name, entry⟩ := listed
          simp only
          split
          · exact ih tail past.tail
          · next fresh =>
              have absent : held.contains name = false := by
                simp only [Bool.or_eq_true, not_or, Bool.not_eq_true] at fresh
                exact fresh.2
              have longer := ih tail (past.insert ascending rolled)
              rw [past.insert_eq rolled absent] at longer
              exact (List.prefix_append _ _).trans longer

/-- Reading comes to the end of the objects with all their entries, or it stops with the first of
them because there are more than it may hold. -/
theorem gather_cases (failure : Option StoreFailure) (ascending : Ascending objects)
    (past : Past bounds held objects) (fits : held.size ≤ bounds.limit) :
    (gatherAll bounds held objects).size ≤ bounds.limit ∧
        gather bounds failure held objects =
          gather bounds failure (gatherAll bounds held objects) [] ∨
      bounds.limit < (gatherAll bounds held objects).size ∧
        ∃ table, gather bounds failure held objects = .ok table ∧
          table.entries = (gatherAll bounds held objects).entries.take bounds.limit := by
  induction objects generalizing held with
  | nil => exact .inl ⟨fits, rfl⟩
  | cons object objects ih =>
      have tail := (List.pairwise_cons.mp ascending).2
      rw [gather, gatherAll]
      cases rolled : rollUp bounds.keyPrefix bounds.delimiter object with
      | none => exact ih tail past.tail fits
      | some listed =>
          obtain ⟨name, entry⟩ := listed
          simp only
          split
          · exact ih tail past.tail fits
          · next fresh =>
              have absent : held.contains name = false := by
                simp only [Bool.or_eq_true, not_or, Bool.not_eq_true] at fresh
                exact fresh.2
              have next_past := past.insert ascending rolled
              have next_entries := past.insert_eq rolled absent
              split
              · next full =>
                  -- What comes after a full page does not change its entries.
                  have first := entries_prefix_gatherAll tail next_past
                  rw [next_entries] at first
                  have longer := first.length_le
                  have front := (List.prefix_append _ _).trans first
                  rw [List.length_append, List.length_singleton] at longer
                  refine .inr ⟨?_, held, rfl, ?_⟩
                  · rw [← full]
                    exact longer
                  · rw [← full]
                    exact List.prefix_iff_eq_take.mp front
              · next room =>
                  have next_fits : (held.insert name entry).size ≤ bounds.limit := by
                    rw [Table.size, next_entries, List.length_append]
                    exact Nat.lt_of_le_of_ne fits room
                  exact ih tail next_past next_fits

/-- Gathering stops with the first of all entries. -/
theorem gather_eq_take (ascending : Ascending objects) (past : Past bounds held objects)
    (fits : held.size ≤ bounds.limit) :
    ∃ table, gather bounds none held objects = .ok table ∧
      table.entries = (gatherAll bounds held objects).entries.take bounds.limit := by
  obtain ⟨all_fit, read⟩ | ⟨-, stopped⟩ := gather_cases none ascending past fits
  · exact ⟨gatherAll bounds held objects, read, (List.take_of_length_le all_fit).symm⟩
  · exact stopped

/-- A failure is met exactly if all entries of the objects before it can be held. -/
theorem gather_eq_error_iff {failure : StoreFailure} (ascending : Ascending objects)
    (past : Past bounds held objects) (fits : held.size ≤ bounds.limit) :
    gather bounds (some failure) held objects = .error failure ↔
      (gatherAll bounds held objects).size ≤ bounds.limit := by
  obtain ⟨all_fit, read⟩ | ⟨too_many, table, stopped, -⟩ :=
    gather_cases (some failure) ascending past fits
  · exact iff_of_true read all_fit
  · rw [stopped]
    exact iff_of_false (by simp) (not_le_of_gt too_many)

theorem of_mem_gatherAll {listed : String × Entry}
    (member : listed ∈ (gatherAll bounds held objects).entries) :
    listed ∈ held.entries ∨
      bounds.isPassed listed.1 = false ∧
        ∃ object ∈ objects, rollUp bounds.keyPrefix bounds.delimiter object = some listed := by
  induction objects generalizing held with
  | nil => exact .inl member
  | cons object objects ih =>
      have later : bounds.isPassed listed.1 = false ∧
          (∃ object ∈ objects, rollUp bounds.keyPrefix bounds.delimiter object = some listed) →
          bounds.isPassed listed.1 = false ∧
            ∃ other ∈ object :: objects,
              rollUp bounds.keyPrefix bounds.delimiter other = some listed := by
        rintro ⟨open_name, other, other_member, rolled⟩
        exact ⟨open_name, other, List.mem_cons_of_mem _ other_member, rolled⟩
      rw [gatherAll] at member
      cases rolled : rollUp bounds.keyPrefix bounds.delimiter object with
      | none =>
          simp only [rolled] at member
          exact (ih member).imp_right later
      | some first =>
          obtain ⟨name, entry⟩ := first
          simp only [rolled] at member
          split at member
          · exact (ih member).imp_right later
          · next fresh =>
              simp only [Bool.or_eq_true, not_or, Bool.not_eq_true] at fresh
              rcases ih member with found | found
              · rcases Table.mem_entries_insert.mp found with rfl | ⟨found, -⟩
                · exact .inr ⟨fresh.1, object, List.mem_cons_self, rolled⟩
                · exact .inl found
              · exact .inr (later found)

theorem contains_gatherAll_of_held {name : String} (present : held.contains name) :
    (gatherAll bounds held objects).contains name := by
  induction objects generalizing held with
  | nil => exact present
  | cons object objects ih =>
      rw [gatherAll]
      cases rollUp bounds.keyPrefix bounds.delimiter object with
      | none => exact ih present
      | some first =>
          simp only
          split
          · exact ih present
          · exact ih (Table.contains_insert.mpr (.inr present))

theorem contains_gatherAll {object : Listed} {name : String} {entry : Entry}
    (member : object ∈ objects)
    (rolled : rollUp bounds.keyPrefix bounds.delimiter object = some (name, entry))
    (open_name : bounds.isPassed name = false) :
    (gatherAll bounds held objects).contains name := by
  induction objects generalizing held with
  | nil => simp at member
  | cons head objects ih =>
      rw [gatherAll]
      rcases List.mem_cons.mp member with rfl | member
      · simp only [rolled, open_name, Bool.false_or]
        split
        · next present => exact contains_gatherAll_of_held present
        · exact contains_gatherAll_of_held (Table.contains_insert.mpr (.inl rfl))
      · cases rollUp bounds.keyPrefix bounds.delimiter head with
        | none => exact ih member
        | some first =>
            simp only
            split
            · exact ih member
            · exact ih member

/-- All entries of objects are those of the reference that are not passed. -/
theorem entries_gatherAll (ascending : Ascending objects) :
    (gatherAll bounds .empty objects).entries =
      (rolledUp bounds.keyPrefix bounds.delimiter objects).entries.filter
        fun listed => !bounds.isPassed listed.1 := by
  have filtered := (rolledUp bounds.keyPrefix bounds.delimiter objects).ascending.filter
    fun listed => !bounds.isPassed listed.1
  refine Entries.eq_of_mem_iff (Table.ascending _) filtered ?_
  rintro ⟨name, entry⟩
  simp only [List.mem_filter, mem_rolledUp ascending, ← rollUp_eq_some_iff, Bool.not_eq_true']
  constructor
  · intro member
    rcases of_mem_gatherAll member with absurd_member | ⟨open_name, found⟩
    · simp [Table.empty] at absurd_member
    · exact ⟨found, open_name⟩
  · rintro ⟨⟨object, object_member, rolled⟩, open_name⟩
    have present : (gatherAll bounds .empty objects).contains name :=
      contains_gatherAll object_member rolled open_name
    obtain ⟨other, member⟩ := Table.contains_iff.mp present
    rcases of_mem_gatherAll member with absurd_member | ⟨-, second, second_member, rolled_other⟩
    · simp [Table.empty] at absurd_member
    · have same := entry_eq_of_name_eq
        (ascending.eq_of_key_eq object_member second_member) rolled rolled_other
      rw [same]
      exact member

theorem gatherAll_append (held : Table Entry) (first second : List Listed) :
    gatherAll bounds held (first ++ second) =
      gatherAll bounds (gatherAll bounds held first) second := by
  induction first generalizing held with
  | nil => rfl
  | cons object first ih =>
      simp only [List.cons_append, gatherAll]
      cases rollUp bounds.keyPrefix bounds.delimiter object with
      | none => exact ih held
      | some listed =>
          simp only
          split
          · exact ih held
          · exact ih (held.insert listed.1 listed.2)

theorem past_gatherAll {first second : List Listed} (ascending : Ascending (first ++ second)) :
    Past bounds (gatherAll bounds .empty first) second := by
  intro entry member object object_member name other rolled
  obtain absurd_member | ⟨-, earlier, earlier_member, rolled_earlier⟩ := of_mem_gatherAll member
  · simp [Table.empty] at absurd_member
  · have across := (List.pairwise_append.mp ascending).2.2
    have order := across earlier earlier_member object object_member
    exact name_le_name order.le rolled_earlier rolled

/-- The first objects are listed as the first entries of all. -/
theorem entries_prefix_gatherAll_append {first second : List Listed}
    (ascending : Ascending (first ++ second)) :
    (gatherAll bounds .empty first).entries <+:
      (gatherAll bounds .empty (first ++ second)).entries := by
  rw [gatherAll_append]
  exact entries_prefix_gatherAll (List.pairwise_append.mp ascending).2.1 (past_gatherAll ascending)

/-- A feed that fails gives the failure if all entries that are not passed can be held, and otherwise
the first of them. -/
theorem Feed.entries_of_failing {feed : Feed} (ascending : Ascending feed.objects)
    {failure : StoreFailure} (failing : feed.failure = some failure) (bounds : Bounds) :
    ((rolledUp bounds.keyPrefix bounds.delimiter feed.objects).entries.filter
          fun listed => !bounds.isPassed listed.1).length ≤ bounds.limit ∧
        feed.entries bounds = .error failure ∨
      bounds.limit < ((rolledUp bounds.keyPrefix bounds.delimiter feed.objects).entries.filter
          fun listed => !bounds.isPassed listed.1).length ∧
        ∃ table, feed.entries bounds = .ok table ∧
          table.entries =
            ((rolledUp bounds.keyPrefix bounds.delimiter feed.objects).entries.filter
              fun listed => !bounds.isPassed listed.1).take bounds.limit := by
  rw [Feed.entries, failing, ← entries_gatherAll ascending]
  exact gather_cases (some failure) ascending past_empty (Nat.zero_le _)

/-- A feed that does not fail gives the first entries of the reference that are not passed. -/
theorem Feed.entries_eq {feed : Feed} (ascending : Ascending feed.objects)
    (unfailing : feed.failure = none) (bounds : Bounds) :
    ∃ table, feed.entries bounds = .ok table ∧
      table.entries =
        ((rolledUp bounds.keyPrefix bounds.delimiter feed.objects).entries.filter
          fun listed => !bounds.isPassed listed.1).take bounds.limit := by
  rw [Feed.entries, unfailing, ← entries_gatherAll ascending]
  exact gather_eq_take ascending past_empty (Nat.zero_le _)

/-- Reading objects that end with a failure either comes to the failure, or stops before it and
would stop there whatever came after the objects. -/
theorem gather_of_failure (bounds : Bounds) (failure : StoreFailure) (held : Table Entry)
    (objects : List Listed) :
    gather bounds (some failure) held objects = .error failure ∨
      ∃ table, gather bounds (some failure) held objects = .ok table ∧
        ∀ ending rest, gather bounds ending held (objects ++ rest) = .ok table := by
  induction objects generalizing held with
  | nil => exact .inl rfl
  | cons object objects ih =>
      simp only [List.cons_append, gather]
      cases rollUp bounds.keyPrefix bounds.delimiter object with
      | none => exact ih held
      | some listed =>
          obtain ⟨name, entry⟩ := listed
          by_cases known : bounds.isPassed name || held.contains name
          · simpa only [if_pos known] using ih held
          · simp only [if_neg known]
            by_cases full : held.size = bounds.limit
            · exact .inr ⟨held, if_pos full, fun _ _ => if_pos full⟩
            · simpa only [if_neg full] using ih (held.insert name entry)

/-- A feed that fails after some objects gives what it would give if it went on without a failure,
unless all entries of those objects can be held: then it gives the failure. -/
theorem Feed.entries_of_failure {delivered : List Listed} (ascending : Ascending delivered)
    (failure : StoreFailure) (rest : List Listed) (bounds : Bounds) :
    (Feed.mk delivered (some failure)).entries bounds =
      if ((rolledUp bounds.keyPrefix bounds.delimiter delivered).entries.filter
          fun listed => !bounds.isPassed listed.1).length ≤ bounds.limit then .error failure
      else (Feed.mk (delivered ++ rest) none).entries bounds := by
  have met_iff : gather bounds (some failure) .empty delivered = .error failure ↔ _ :=
    gather_eq_error_iff ascending past_empty (Nat.zero_le _)
  rw [Table.size, entries_gatherAll ascending] at met_iff
  simp only [Feed.entries]
  obtain met | ⟨table, stopped, whole⟩ := gather_of_failure bounds failure .empty delivered
  · rw [if_pos (met_iff.mp met), met]
  · rw [if_neg, stopped, whole]
    rw [← met_iff, stopped]
    simp

theorem Bounds.not_isPassed_eq (bounds : Bounds) (name : String) :
    (!bounds.isPassed name) =
      bounds.after.all fun token => Text.bytes token < Text.bytes name := by
  rw [isPassed]
  cases bounds.after with
  | none => rfl
  | some token => simp [Text.bytes_lt_bytes_iff, ← not_lt]

/--
Reading objects in byte order may stop early.  Of all that the objects are listed as, each name once
and in byte order, it gives the first entries past the name that the listing goes on after, as many
as may be held.  No name is both that of an object and a common prefix, or that of two objects.
-/
theorem Feed.entries_eq_first_of_all {objects : List Listed}
    (ascending : objects.Pairwise fun first second =>
      Text.bytes first.key < Text.bytes second.key) (bounds : Bounds) :
    (∃ held, (Feed.mk objects none).entries bounds = .ok held ∧
        held.entries =
          ((rolledUp bounds.keyPrefix bounds.delimiter objects).entries.filter fun listed =>
            bounds.after.all fun token => Text.bytes token < Text.bytes listed.1).take
              bounds.limit) ∧
      ((rolledUp bounds.keyPrefix bounds.delimiter objects).entries.Pairwise fun first second =>
        Text.bytes first.1 < Text.bytes second.1) ∧
      (∀ listed, listed ∈ (rolledUp bounds.keyPrefix bounds.delimiter objects).entries ↔
        ∃ object ∈ objects, Represents bounds.keyPrefix bounds.delimiter object listed) ∧
      ∀ first ∈ objects, ∀ second ∈ objects, ∀ name entry other,
        Represents bounds.keyPrefix bounds.delimiter first (name, entry) →
          Represents bounds.keyPrefix bounds.delimiter second (name, other) → entry = other := by
  have in_order : Ascending objects := ascending.imp Text.bytes_lt_bytes_iff.mp
  refine ⟨?first, ?ordered, fun listed => mem_rolledUp in_order, ?single⟩
  case first =>
    have whole : (Feed.mk objects none).failure = none := rfl
    obtain ⟨held, read, entries_eq⟩ := Feed.entries_eq in_order whole bounds
    refine ⟨held, read, ?_⟩
    simpa only [Bounds.not_isPassed_eq] using entries_eq
  case ordered =>
    exact (rolledUp bounds.keyPrefix bounds.delimiter objects).ascending.imp
      Text.bytes_lt_bytes_iff.mpr
  case single =>
    intro first first_member second second_member name entry other represents represents_other
    exact entry_eq_of_name_eq (in_order.eq_of_key_eq first_member second_member)
      (rollUp_of_represents represents) (rollUp_of_represents represents_other)

/-- Objects of two folders and beside them, some with a mark of two characters. -/
def marked : List Listed :=
  [⟨"a--1", 1⟩, ⟨"a--2", 2⟩, ⟨"a-x", 3⟩, ⟨"b--1", 4⟩, ⟨"b--2", 5⟩, ⟨"é", 6⟩]

/-- Two entries past the first folder. -/
def pastFirst : Bounds where
  keyPrefix := ""
  delimiter := "--"
  after := some "a--"
  limit := 2

theorem entries_eq_first_of_all_marked :
    (marked.Pairwise fun first second => Text.bytes first.key < Text.bytes second.key) ∧
      ∃ held, (Feed.mk marked none).entries pastFirst = .ok held ∧
        held.entries = [("a-x", .object 3), ("b--", .folder)] := by
  have ascending : marked.Pairwise fun first second =>
      Text.bytes first.key < Text.bytes second.key := by
    decide
  obtain ⟨⟨held, read, entries_eq⟩, -⟩ := Feed.entries_eq_first_of_all ascending pastFirst
  refine ⟨ascending, held, read, ?_⟩
  rw [entries_eq]
  decide +kernel

end Listing
end BucketCatalog
