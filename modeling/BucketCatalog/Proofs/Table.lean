import BucketCatalog.Table
import Mathlib.Data.List.Sort
import Mathlib.Data.String.Basic

/-!
# Lookups of tables

A table is determined by its lookups, and its entries are exactly what its lookups find.
-/

namespace BucketCatalog

universe u

variable {α : Type u}

namespace Entries

theorem find?_eq_some_iff {entries : List (String × α)} (sorted : Ascending entries) {key : String}
    {value : α} : find? key entries = some value ↔ (key, value) ∈ entries := by
  induction entries with
  | nil => simp [find?]
  | cons head rest ih =>
      obtain ⟨name, held⟩ := head
      have below := (List.pairwise_cons.mp sorted).1
      have tail := ih (List.pairwise_cons.mp sorted).2
      rw [find?]
      by_cases same : name = key
      · subst same
        have absent : (name, value) ∉ rest := fun member => lt_irrefl name (below _ member)
        simp [absent, eq_comm]
      · simp [same, tail, Ne.symm same]

/-- Ascending lists with the same entries are equal. -/
theorem eq_of_mem_iff {first second : List (String × α)} (sorted_first : Ascending first)
    (sorted_second : Ascending second) (same : ∀ entry, entry ∈ first ↔ entry ∈ second) :
    first = second := by
  let before : String × α → String × α → Prop := fun left right => left.1 < right.1
  have : Std.Antisymm before := ⟨fun left right one other => absurd one (lt_asymm other)⟩
  have : Std.Irrefl before := ⟨fun entry => lt_irrefl entry.1⟩
  exact List.Pairwise.eq_of_mem_iff (r := before) sorted_first sorted_second same

/-- An entry whose key comes last is put at the end. -/
theorem insert_of_last {entries : List (String × α)} {key : String}
    (last : ∀ entry ∈ entries, entry.1 < key) (value : α) :
    insert key value entries = entries ++ [(key, value)] := by
  induction entries with
  | nil => rfl
  | cons head rest ih =>
      obtain ⟨name, held⟩ := head
      have here : name < key := last _ List.mem_cons_self
      have tail := ih fun entry member => last entry (List.mem_cons_of_mem _ member)
      simp [insert, here, lt_asymm here, tail]

/-- What is picked from entries, each under its own key, is picked once. -/
theorem nodup_filterMap {β : Type u} {entries : List (String × α)} (sorted : Ascending entries)
    {pick : String × α → Option β} {name : β → String}
    (names : ∀ entry item, pick entry = some item → name item = entry.1) :
    (entries.filterMap pick).Nodup := by
  refine sorted.filterMap pick fun first second order item picked other other_picked same => ?_
  have key_eq : first.1 = second.1 := by
    rw [← names first item picked, ← names second other other_picked, same]
  exact order.ne key_eq

theorem length_insert_le (key : String) (value : α) (entries : List (String × α)) :
    (insert key value entries).length ≤ entries.length + 1 := by
  induction entries with
  | nil => simp [insert]
  | cons head rest ih =>
      obtain ⟨name, held⟩ := head
      simp only [insert]
      split
      · simp
      · split
        · simpa using ih
        · simp

/-- A value put in place of another leaves the keys as they are. -/
theorem map_fst_insert {entries : List (String × α)} (sorted : Ascending entries) {key : String}
    (held : (find? key entries).isSome) (value : α) :
    (insert key value entries).map Prod.fst = entries.map Prod.fst := by
  induction entries with
  | nil => simp [find?] at held
  | cons head rest ih =>
      obtain ⟨name, old⟩ := head
      have below := (List.pairwise_cons.mp sorted).1
      have tail := (List.pairwise_cons.mp sorted).2
      by_cases here : name = key
      · subst here
        simp [insert]
      · simp only [find?, here, if_false] at held
        obtain ⟨other, found⟩ := Option.isSome_iff_exists.mp held
        have later : name < key := below _ ((find?_eq_some_iff tail).mp found)
        simp [insert, later, lt_asymm later, ih tail held]

theorem find?_append (key : String) (first second : List (String × α)) :
    find? key (first ++ second) = (find? key first).or (find? key second) := by
  induction first with
  | nil => rfl
  | cons head rest ih =>
      obtain ⟨name, held⟩ := head
      by_cases here : name = key
      · simp [find?, here]
      · simp [find?, here, ih]

/-- The value of the last entry at a key. -/
@[simp]
def last? (key : String) : List (String × α) → Option α
  | [] => none
  | (name, held) :: rest => (last? key rest).or (if name = key then some held else none)

@[simp]
theorem last?_append (key : String) (first second : List (String × α)) :
    last? key (first ++ second) = (last? key second).or (last? key first) := by
  induction first with
  | nil => simp [last?]
  | cons head rest ih => simp [last?, ih, Option.or_assoc]

/-- An entry that is there if there is a value for it. -/
@[simp]
theorem last?_optional {β : Type u} (key name : String) (write : β → α) (value : Option β) :
    last? key (value.map fun value => (name, write value)).toList =
      if name = key then value.map write else none := by
  cases value <;> by_cases here : name = key <;> simp [last?, here]

end Entries

namespace Table

variable {table : Table α} {key : String} {value : α}

theorem mem_entries_iff : (key, value) ∈ table.entries ↔ table.get? key = some value :=
  (Entries.find?_eq_some_iff table.ascending).symm

theorem contains_iff : table.contains key ↔ ∃ value, (key, value) ∈ table.entries := by
  simp [contains, Option.isSome_iff_exists, mem_entries_iff]

theorem mem_entries_insert {entry : String × α} :
    entry ∈ (table.insert key value).entries ↔
      entry = (key, value) ∨ entry ∈ table.entries ∧ entry.1 ≠ key := by
  obtain ⟨name, held⟩ := entry
  rw [mem_entries_iff, get?_insert, mem_entries_iff]
  by_cases same : name = key
  · simp [same, eq_comm]
  · simp [same]

theorem contains_insert {name : String} :
    (table.insert key value).contains name ↔ name = key ∨ table.contains name := by
  rw [contains, get?_insert]
  by_cases same : name = key
  · simp [same]
  · simp [same, contains]

theorem keys_insert (held : table.contains key) (value : α) :
    (table.insert key value).keys = table.keys :=
  Entries.map_fst_insert table.ascending held value

theorem contains_iff_mem_keys : table.contains key ↔ key ∈ table.keys := by
  rw [contains_iff, keys, List.mem_map]
  simp

/-- Changing the values leaves the keys as they are. -/
@[simp]
theorem keys_map {β : Type u} (change : String → α → β) : (table.map change).keys = table.keys := by
  simp [keys, map]

theorem mem_of_mem_insertMany {entries : List (String × α)} {entry : String × α}
    (member : entry ∈ (table.insertMany entries).entries) :
    entry ∈ table.entries ∨ entry ∈ entries := by
  induction entries generalizing table with
  | nil => exact .inl member
  | cons head rest ih =>
      rcases ih member with put | later
      · rcases mem_entries_insert.mp put with rfl | ⟨old, -⟩
        · exact .inr List.mem_cons_self
        · exact .inl old
      · exact .inr (List.mem_cons_of_mem _ later)

theorem size_insertMany_le (entries : List (String × α)) :
    (table.insertMany entries).size ≤ table.size + entries.length := by
  induction entries generalizing table with
  | nil => simp [insertMany]
  | cons head rest ih =>
      have rest_bound := @ih (table.insert head.1 head.2)
      have head_bound : (table.insert head.1 head.2).size ≤ table.size + 1 :=
        Entries.length_insert_le head.1 head.2 table.entries
      have same : table.insertMany (head :: rest) = (table.insert head.1 head.2).insertMany rest :=
        rfl
      rw [same, List.length_cons]
      omega

theorem mem_of_mapM {β ε : Type u} {items : List α} {change : α → Except ε β} {results : List β}
    (changed : items.mapM change = .ok results) {result : β} (member : result ∈ results) :
    ∃ item ∈ items, change item = .ok result := by
  induction items generalizing results with
  | nil =>
      obtain rfl := Except.ok.inj changed
      simp at member
  | cons first items ih =>
      rw [List.mapM_cons] at changed
      cases first_changed : change first with
      | error fault => simp [first_changed, bind, Except.bind] at changed
      | ok first_result =>
          cases others_changed : items.mapM change with
          | error fault => simp [first_changed, others_changed, bind, Except.bind] at changed
          | ok others =>
              simp only [first_changed, others_changed, bind, Except.bind, pure, Except.pure,
                Except.ok.injEq] at changed
              subst changed
              rcases List.mem_cons.mp member with rfl | later
              · exact ⟨first, List.mem_cons_self, first_changed⟩
              · obtain ⟨item, item_member, item_changed⟩ := ih others_changed later
                exact ⟨item, List.mem_cons_of_mem _ item_member, item_changed⟩

/-- The entries of a changed table are changed entries of the table. -/
theorem mem_of_traverse {β ε : Type u} {change : String → α → Except ε β} {changed : Table β}
    (result : table.traverse change = .ok changed) {entry : String × β}
    (member : entry ∈ changed.entries) :
    ∃ value, (entry.1, value) ∈ table.entries ∧ change entry.1 value = .ok entry.2 := by
  simp only [traverse, Except.map] at result
  split at result
  · contradiction
  · next changes all_changed =>
      obtain rfl := Except.ok.inj result
      have put : entry ∈ changes := by
        simpa [empty] using mem_of_mem_insertMany member
      obtain ⟨⟨name, value⟩, source, change_eq⟩ := mem_of_mapM all_changed put
      cases changed_value : change name value with
      | error fault => simp [changed_value] at change_eq
      | ok value_changed =>
          simp only [changed_value, Except.ok.injEq] at change_eq
          subst change_eq
          exact ⟨value, source, changed_value⟩

/-- Entries that agree on their keys are all there after they were put. -/
theorem mem_entries_insertMany {entries : List (String × α)}
    (single : ∀ first ∈ table.entries ++ entries, ∀ second ∈ table.entries ++ entries,
      first.1 = second.1 → first = second) {entry : String × α} :
    entry ∈ (table.insertMany entries).entries ↔ entry ∈ table.entries ++ entries := by
  induction entries generalizing table with
  | nil => simp [insertMany]
  | cons head rest ih =>
      obtain ⟨name, held⟩ := head
      have kept : ∀ entry, entry ∈ (table.insert name held).entries ↔
          entry ∈ table.entries ++ [(name, held)] := by
        intro entry
        rw [mem_entries_insert, List.mem_append, List.mem_singleton]
        constructor
        · rintro (rfl | ⟨member, -⟩)
          · exact .inr rfl
          · exact .inl member
        · rintro (member | rfl)
          · by_cases same : entry.1 = name
            · exact .inl (single entry (by simp [member]) (name, held) (by simp) same)
            · exact .inr ⟨member, same⟩
          · exact .inl rfl
      have moved : ∀ entry, entry ∈ (table.insert name held).entries ++ rest ↔
          entry ∈ table.entries ++ (name, held) :: rest := by
        intro entry
        rw [List.mem_append, kept, ← List.mem_append, List.append_assoc, List.singleton_append]
      rw [← moved]
      apply ih
      intro first first_member second second_member
      exact single first ((moved first).mp first_member) second ((moved second).mp second_member)

theorem get?_insertMany (entries : List (String × α)) (key : String) :
    (table.insertMany entries).get? key = (Entries.last? key entries).or (table.get? key) := by
  induction entries generalizing table with
  | nil => rfl
  | cons head rest ih =>
      have rest_found := @ih (table.insert head.1 head.2)
      have same : table.insertMany (head :: rest) = (table.insert head.1 head.2).insertMany rest :=
        rfl
      rw [same, rest_found, get?_insert, Entries.last?, Option.or_assoc]
      by_cases here : head.1 = key
      · simp [here]
      · simp [here, Ne.symm here]

/-- The table of a list has the last value of each key. -/
theorem find?_ofList (entries : List (String × α)) (key : String) :
    Entries.find? key (ofList entries).entries = Entries.last? key entries := by
  have found := (empty : Table α).get?_insertMany entries key
  rwa [get?_empty, Option.or_none] at found

/-- The entries of a list whose keys have one value each are those of its table. -/
theorem mem_entries_ofList {entries : List (String × α)}
    (single : ∀ first ∈ entries, ∀ second ∈ entries, first.1 = second.1 → first = second)
    {entry : String × α} : entry ∈ (ofList entries).entries ↔ entry ∈ entries := by
  rw [ofList, mem_entries_insertMany (by simpa [empty] using single)]
  simp [empty]

/-- The table of its own entries is the table. -/
@[simp]
theorem ofList_entries (table : Table α) : ofList table.entries = table := by
  have single : ∀ first ∈ table.entries, ∀ second ∈ table.entries,
      first.1 = second.1 → first = second := by
    rintro ⟨name, held⟩ first_member ⟨_, other⟩ second_member rfl
    have found := mem_entries_iff.mp first_member
    rw [mem_entries_iff.mp second_member] at found
    rw [Option.some.inj found]
  exact ext (Entries.eq_of_mem_iff (ofList table.entries).ascending table.ascending fun entry =>
    mem_entries_ofList single)

/-- Tables with the same lookups are equal. -/
theorem ext_get? {first second : Table α} (same : ∀ key, first.get? key = second.get? key) :
    first = second := by
  refine ext (Entries.eq_of_mem_iff first.ascending second.ascending ?_)
  rintro ⟨key, value⟩
  rw [mem_entries_iff, mem_entries_iff, same]

theorem last?_entries (table : Table α) (key : String) :
    Entries.last? key table.entries = table.get? key := by
  rw [← find?_ofList, ofList_entries, get?]

/-- The upper table is asked first. -/
theorem get?_overlay (lower upper : Table α) (key : String) :
    (lower.overlay upper).get? key = (upper.get? key).or (lower.get? key) := by
  rw [overlay, get?_insertMany, last?_entries]

/-- A table that was laid over another before hides all of it. -/
theorem overlay_overlay (lower upper : Table α) :
    lower.overlay (lower.overlay upper) = lower.overlay upper := by
  refine ext_get? fun key => ?_
  rw [get?_overlay, get?_overlay, Option.or_assoc, Option.or_self]

end Table
end BucketCatalog
