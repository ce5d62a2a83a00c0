import BucketCatalog.Json.Record
import BucketCatalog.Proofs.Table

/-!
# Records read back

A record is read back from what is written for it if each member takes its value from the written
members: either it is written in a way that its reader gives back, or it is left out and its value
is the one that stands for a missing member.  The judgement of the members that are there never
refuses one that its own reader accepts.
-/

namespace BucketCatalog

namespace JsonReader

/-- A reader that gives back what is written. -/
structure RoundTrips {α : Type} (read : JsonReader α) (write : α → Json) : Prop where
  /-- Every value is read from what is written for it. -/
  reads : ∀ value, read (write value) = .ok value
  /-- A value that was read is read again from what is written for it. -/
  settles : ∀ json value, read json = .ok value → read (write value) = read json

variable {α : Type} {read : JsonReader α} {write : α → Json}

theorem RoundTrips.of_reads (reads : ∀ value, read (write value) = .ok value) :
    RoundTrips read write where
  reads := reads
  settles := fun _ value read_once => (reads value).trans read_once.symm

theorem roundTrips_str : RoundTrips str .str :=
  .of_reads fun _ => rfl

theorem roundTrips_bool : RoundTrips bool .bool :=
  .of_reads fun _ => rfl

theorem natBelow_nat {bound value : Nat} (below : value < bound) (expected : String) :
    natBelow bound expected (.nat value) = .ok value := by
  simp [natBelow, Json.nat, below]

theorem roundTrips_word32 : RoundTrips word32 fun value => .nat value.toNat := by
  refine .of_reads fun value => ?_
  rw [word32, natBelow_nat (UInt32.toNat_lt_size value), Except.map, UInt32.ofNat_toNat]

theorem roundTrips_word64 : RoundTrips word64 fun value => .nat value.toNat := by
  refine .of_reads fun value => ?_
  rw [word64, natBelow_nat (UInt64.toNat_lt_size value), Except.map, UInt64.ofNat_toNat]

theorem roundTrips_size : RoundTrips size fun value => .nat value.toNat := by
  refine .of_reads fun value => ?_
  rw [size, natBelow_nat (UInt64.toNat_lt_size value), Except.map, UInt64.ofNat_toNat]

/-- A value that is never written as `null` may be left out. -/
theorem RoundTrips.option (codec : RoundTrips read write) (some_value : ∀ value, write value ≠ .null) :
    RoundTrips (JsonReader.option read) (.option write) := by
  refine .of_reads fun value => ?_
  cases value with
  | none => rfl
  | some value =>
      have read_value := codec.reads value
      have not_null := some_value value
      simp only [Json.option]
      cases written : write value with
      | null => exact absurd written not_null
      | _ => simp [JsonReader.option, ← written, read_value, Except.map]

theorem mapM_map {β ε : Type} {change : β → Except ε α} {write : α → β}
    (reads : ∀ value, change (write value) = .ok value) (values : List α) :
    (values.map write).mapM change = .ok values := by
  induction values with
  | nil => rfl
  | cons value values ih =>
      simp [List.mapM_cons, reads, ih, bind, Except.bind, pure, Except.pure]

theorem RoundTrips.list (codec : RoundTrips read write) :
    RoundTrips (JsonReader.list read) (.list write) :=
  .of_reads (mapM_map codec.reads)

theorem RoundTrips.table (codec : RoundTrips read write) :
    RoundTrips (JsonReader.table read) fun table => .ofTable (table.map fun _ => write) := by
  refine .of_reads fun table => ?_
  let readField := fun field : String × Json => (read field.2).map fun value => (field.1, value)
  let writeEntry := fun entry : String × α => (entry.1, write entry.2)
  have entry_read : ∀ entry, readField (writeEntry entry) = .ok entry := by
    intro entry
    simp [readField, writeEntry, codec.reads, Except.map]
  have entries_read : (table.entries.map writeEntry).mapM readField = .ok table.entries :=
    mapM_map entry_read table.entries
  change ((table.entries.map writeEntry).mapM readField).map Table.ofList = .ok table
  rw [entries_read, Except.map, Table.ofList_entries]

/-- An object whose values stay as they are is read as it is written. -/
theorem roundTrips_tree : RoundTrips tree .ofTable := by
  refine .of_reads fun table => ?_
  have same : table.map (fun _ json => json) = table := by
    apply Table.ext
    simp [Table.map]
  have codec : RoundTrips (.ok : JsonReader Json) fun json => json := .of_reads fun _ => rfl
  have read_table := codec.table.reads table
  rw [same] at read_table
  exact read_table

end JsonReader

/-- What a member takes from the members that are written, of which the last of a name counts. -/
def Member.taken {α : Type} (member : Member α) (written : List (String × Json)) :
    Except ShapeError α :=
  match Entries.last? member.name written with
  | some json => member.read json
  | none =>
      match member.missing with
      | some value => .ok value
      | none => .error (.missingField member.name)

namespace Member

variable {α : Type} {member : Member α} {name : String} {read : JsonReader α} {write : α → Json}
  {written : List (String × Json)} {value : α}

@[simp]
theorem name_required (name : String) (read : JsonReader α) : (required name read).name = name :=
  rfl

@[simp]
theorem name_withDefault (name : String) (read : JsonReader α) (default : α) :
    (withDefault name read default).name = name := rfl

@[simp]
theorem name_optional (name : String) (read : JsonReader α) : (optional name read).name = name :=
  rfl

@[simp]
theorem name_optionalTail (name : String) (read : JsonReader α) :
    (optionalTail name read).name = name := rfl

theorem taken_of_written (codec : member.read.RoundTrips write)
    (found : Entries.last? member.name written = some (write value)) :
    member.taken written = .ok value := by
  simp only [taken, found, codec.reads]

theorem taken_of_left_out (default : member.missing = some value)
    (absent : Entries.last? member.name written = none) : member.taken written = .ok value := by
  simp only [taken, absent, default]

/-- An optional member that is written if there is a value for it. -/
theorem taken_of_given (codec : read.RoundTrips write) (some_value : ∀ value, write value ≠ .null)
    {given : Option α} (found : Entries.last? name written = given.map write) :
    (optionalTail name read).taken written = .ok given := by
  cases given with
  | none => exact taken_of_left_out rfl found
  | some value => exact taken_of_written (codec.option some_value) found

end Member

namespace RecordReader

variable {α β : Type} {written : List (String × Json)}

/-- A record that gives back a value from the members that are written for it. -/
structure ReadsBack (reader : RecordReader α) (written : List (String × Json)) (value : α) :
    Prop where
  /-- The value is made from the members. -/
  made : reader.ofFields (Table.ofList written).entries = .ok value
  /-- No member is refused. -/
  judged : ∀ name check, Entries.find? name reader.members = some check →
    ∀ json, Entries.last? name written = some json → check json = .ok ()

theorem readsBack_make (value : α) (written : List (String × Json)) :
    (make value).ReadsBack written value where
  made := rfl
  judged := by
    intro name check found
    contradiction

/-- A record is read back with one more member if that member takes its value. -/
theorem ReadsBack.field {reader : RecordReader (α → β)} {member : Member α} {build : α → β}
    {value : α} (back : reader.ReadsBack written build) (taken : member.taken written = .ok value) :
    (reader.field member).ReadsBack written (build value) where
  made := by
    simp only [RecordReader.field, back.made, Table.find?_ofList, bind, Except.bind, pure,
      Except.pure]
    rw [Member.taken] at taken
    cases found : Entries.last? member.name written with
    | some json =>
        simp only [found] at taken
        simp only [taken]
    | none =>
        simp only [found] at taken
        cases default : member.missing with
        | some other =>
            simp only [default, Except.ok.injEq] at taken
            rw [taken]
        | none => simp [default] at taken
  judged := by
    intro name check known json found
    rw [RecordReader.field, Entries.find?_append] at known
    cases earlier : Entries.find? name reader.members with
    | some other =>
        rw [earlier, Option.some_or] at known
        obtain rfl := Option.some.inj known
        exact back.judged name other earlier json found
    | none =>
        rw [earlier, Option.none_or, Entries.find?] at known
        split at known
        · next same =>
            obtain rfl := Option.some.inj known
            rw [Member.taken, same, found] at taken
            simp only [taken, Except.map]
        · contradiction

theorem forM_of_accepted {ε : Type} {check : α → Except ε Unit} {items : List α}
    (accepts : ∀ item ∈ items, check item = .ok ()) : items.forM check = .ok () := by
  induction items with
  | nil => rfl
  | cons item items ih =>
      have rest := ih fun other member => accepts other (List.mem_cons_of_mem _ member)
      rw [List.forM, accepts item List.mem_cons_self]
      exact rest

theorem ReadsBack.readFields {reader : RecordReader α} {value : α}
    (back : reader.ReadsBack written value) :
    reader.readFields (Table.ofList written).entries = .ok value := by
  have judged : reader.judge (Table.ofList written).entries = .ok () := by
    rw [judge]
    apply forM_of_accepted
    intro field member
    have found : Entries.last? field.1 written = some field.2 := by
      rw [← Table.find?_ofList]
      exact (Entries.find?_eq_some_iff (Table.ascending _)).mpr member
    cases known : Entries.find? field.1 reader.members with
    | some check => exact back.judged field.1 check known field.2 found
    | none => rfl
  rw [RecordReader.readFields, judged]
  exact back.made

theorem ReadsBack.read {reader : RecordReader α} {value : α}
    (back : reader.ReadsBack written value) (record : String) :
    reader.read record (.object written) = .ok value :=
  back.readFields

end RecordReader
end BucketCatalog
