/-!
# Tables

Finite maps from texts, kept in the byte order of their keys.  The order is part of the type, so a
table is determined by its lookups, and reading its entries always gives the same order.
-/

namespace BucketCatalog

universe u v

namespace Entries

/-- Put a value at a key of an ascending list, replacing the value that was there. -/
def insert {α : Type u} (key : String) (value : α) : List (String × α) → List (String × α)
  | [] => [(key, value)]
  | (name, held) :: rest =>
      if key < name then (key, value) :: (name, held) :: rest
      else if name < key then (name, held) :: insert key value rest
      else (key, value) :: rest

/-- The value at a key. -/
def find? {α : Type u} (key : String) : List (String × α) → Option α
  | [] => none
  | (name, held) :: rest => if name = key then some held else find? key rest

/-- Remove the entry at a key. -/
def erase {α : Type u} (key : String) : List (String × α) → List (String × α)
  | [] => []
  | (name, held) :: rest => if name = key then rest else (name, held) :: erase key rest

/-- Keys in strictly ascending byte order. -/
def Ascending {α : Type u} (entries : List (String × α)) : Prop :=
  entries.Pairwise fun first second => first.1 < second.1

theorem mem_insert {α : Type u} {key : String} {value : α} {entries : List (String × α)}
    {entry : String × α} (member : entry ∈ insert key value entries) :
    entry = (key, value) ∨ entry ∈ entries := by
  induction entries with
  | nil => simpa [insert] using member
  | cons head rest induction =>
      obtain ⟨name, held⟩ := head
      simp only [insert] at member
      split at member
      · simpa using member
      · split at member
        · rcases List.mem_cons.mp member with rfl | member
          · simp
          · rcases induction member with found | found <;> simp [found]
        · rcases List.mem_cons.mp member with rfl | member
          · simp
          · simp [member]

theorem ascending_insert {α : Type u} {entries : List (String × α)} (sorted : Ascending entries)
    (key : String) (value : α) : Ascending (insert key value entries) := by
  induction entries with
  | nil => simp [insert, Ascending]
  | cons head rest induction =>
      obtain ⟨name, held⟩ := head
      have below := (List.pairwise_cons.mp sorted).1
      have tail := (List.pairwise_cons.mp sorted).2
      simp only [insert]
      split
      · next first =>
          refine List.pairwise_cons.mpr ⟨?_, sorted⟩
          intro entry member
          rcases List.mem_cons.mp member with rfl | member
          · exact first
          · exact String.lt_trans first (below entry member)
      · split
        · next second =>
            refine List.pairwise_cons.mpr ⟨?_, induction tail⟩
            intro entry member
            rcases mem_insert member with rfl | member
            · exact second
            · exact below entry member
        · next notFirst notSecond =>
            have same : key = name :=
              String.le_antisymm (String.not_lt.mp notSecond) (String.not_lt.mp notFirst)
            subst same
            exact List.pairwise_cons.mpr ⟨below, tail⟩

theorem mem_of_mem_erase {α : Type u} {key : String} {entries : List (String × α)}
    {entry : String × α} (member : entry ∈ erase key entries) : entry ∈ entries := by
  induction entries with
  | nil => exact member
  | cons head rest induction =>
      simp only [erase] at member
      split at member
      · exact List.mem_cons_of_mem _ member
      · rcases List.mem_cons.mp member with rfl | member
        · exact List.mem_cons_self
        · exact List.mem_cons_of_mem _ (induction member)

theorem ascending_erase {α : Type u} {entries : List (String × α)} (sorted : Ascending entries)
    (key : String) : Ascending (erase key entries) := by
  induction entries with
  | nil => exact sorted
  | cons head rest induction =>
      have below := (List.pairwise_cons.mp sorted).1
      have tail := (List.pairwise_cons.mp sorted).2
      simp only [erase]
      split
      · exact tail
      · exact List.pairwise_cons.mpr
          ⟨fun entry member => below entry (mem_of_mem_erase member), induction tail⟩

/-- An entry put at a key is found there; every other key keeps its value. -/
theorem find?_insert {α : Type u} (entries : List (String × α)) (key other : String) (value : α) :
    find? other (insert key value entries) =
      if other = key then some value else find? other entries := by
  induction entries with
  | nil =>
      by_cases same : other = key
      · simp [insert, find?, same]
      · simp [insert, find?, same, Ne.symm same]
  | cons head rest induction =>
      obtain ⟨name, held⟩ := head
      simp only [insert]
      split
      · next first =>
          by_cases same : other = key
          · simp [find?, same]
          · simp [find?, same, Ne.symm same]
      · split
        · next second =>
            have apart : name ≠ key := fun same => String.lt_irrefl key (same ▸ second)
            by_cases here : name = other
            · subst here
              simp [find?, apart]
            · simp [find?, here, induction]
        · next notFirst notSecond =>
            have same : key = name :=
              String.le_antisymm (String.not_lt.mp notSecond) (String.not_lt.mp notFirst)
            subst same
            by_cases here : other = key
            · simp [find?, here]
            · simp [find?, here, Ne.symm here]

end Entries

/-- A finite map from texts, in byte order of its keys. -/
structure Table (α : Type u) where
  /-- Keys with their values. -/
  entries : List (String × α)
  /-- Every key comes before the keys after it. -/
  ascending : Entries.Ascending entries

namespace Table

@[ext]
theorem ext {α : Type u} {left right : Table α} (same : left.entries = right.entries) :
    left = right := by
  cases left
  cases right
  simpa using same

/-- The table without entries. -/
def empty {α : Type u} : Table α where
  entries := []
  ascending := List.Pairwise.nil

instance {α : Type u} : Inhabited (Table α) :=
  ⟨empty⟩

/-- Whether a table has no entries. -/
def isEmpty {α : Type u} (table : Table α) : Bool :=
  table.entries.isEmpty

/-- The number of entries. -/
def size {α : Type u} (table : Table α) : Nat :=
  table.entries.length

/-- The keys, in byte order. -/
def keys {α : Type u} (table : Table α) : List String :=
  table.entries.map Prod.fst

/-- The value at a key. -/
def get? {α : Type u} (table : Table α) (key : String) : Option α :=
  Entries.find? key table.entries

/-- Whether a key has a value. -/
def contains {α : Type u} (table : Table α) (key : String) : Bool :=
  (table.get? key).isSome

/-- Put a value at a key, replacing the value that was there. -/
def insert {α : Type u} (table : Table α) (key : String) (value : α) : Table α where
  entries := Entries.insert key value table.entries
  ascending := Entries.ascending_insert table.ascending key value

/-- Remove the entry at a key. -/
def erase {α : Type u} (table : Table α) (key : String) : Table α where
  entries := Entries.erase key table.entries
  ascending := Entries.ascending_erase table.ascending key

/-- Put every entry of a list, later ones over earlier ones. -/
def insertMany {α : Type u} (table : Table α) (entries : List (String × α)) : Table α :=
  entries.foldl (fun held entry => held.insert entry.1 entry.2) table

/-- The table of a list of entries, where a later entry replaces an earlier one of its key. -/
def ofList {α : Type u} (entries : List (String × α)) : Table α :=
  empty.insertMany entries

/-- All entries of the first table, replaced and extended by those of the second. -/
def overlay {α : Type u} (lower upper : Table α) : Table α :=
  lower.insertMany upper.entries

/-- Change every value, keeping the keys. -/
def map {α : Type u} {β : Type v} (change : String → α → β) (table : Table α) : Table β where
  entries := table.entries.map fun entry => (entry.1, change entry.1 entry.2)
  ascending := by
    have sorted := table.ascending
    simpa [Entries.Ascending, List.pairwise_map] using sorted

/-- Change every value in key order, stopping at the first failure. -/
def traverse {α : Type u} {β : Type u} {ε : Type u} (change : String → α → Except ε β)
    (table : Table α) : Except ε (Table β) :=
  (table.entries.mapM fun entry => (change entry.1 entry.2).map fun value => (entry.1, value)).map
    ofList

@[simp]
theorem get?_empty {α : Type u} (key : String) : (empty : Table α).get? key = none := rfl

theorem get?_insert {α : Type u} (table : Table α) (key other : String) (value : α) :
    (table.insert key value).get? other = if other = key then some value else table.get? other :=
  Entries.find?_insert table.entries key other value

end Table
end BucketCatalog
