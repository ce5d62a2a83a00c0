import BucketCatalog.Json
import BucketCatalog.Decimal.Shortest
import BucketCatalog.Text.Quoted

/-!
# Records in JSON

A record is written as an object of its members.  It is read from an object, whose members may come
in any order and among others, or from the sequence of its members in their declared order.  A
`RecordReader` holds both ways together, so that a type lists its members once.

Of an object, the members that are present are judged first, in byte order of their names; only then
are missing ones reported, in declared order.
-/

namespace BucketCatalog

/-- Why a JSON value does not have the shape that was asked for. -/
inductive ShapeError where
  /-- An object lacks a member. -/
  | missingField (name : String)
  /-- A value is of another kind than the expected one. -/
  | invalidType (found : Json) (expected : String)
  /-- An integer is outside the range of the expected type. -/
  | outOfRange (value : Int) (expected : String)
  /-- A sequence ends before a required member of the record. -/
  | tooShort (position : Nat) (record : String) (members : Nat)
  /-- A sequence goes on after the last member of the record. -/
  | tooLong (length : Nat)
  /-- A name is not one of two known ones. -/
  | unknownVariant (name first second : String)
  /-- An object that names a choice does not have exactly one member. -/
  | notOneVariant

namespace ShapeError

/-- What kind of value was found, with the value if it is short. -/
def describe : Json → String
  | .null => "null"
  | .bool true => "boolean `true`"
  | .bool false => "boolean `false`"
  | .int value => "integer `" ++ toString value ++ "`"
  | .double bits => "floating point `" ++ Decimal.text bits ++ "`"
  | .str text => "string " ++ Text.quoted text
  | .arr _ => "sequence"
  | .obj _ => "map"

/-- The text shown for a shape error. -/
def message : ShapeError → String
  | .missingField name => "missing field `" ++ name ++ "`"
  | .invalidType found expected =>
      "invalid type: " ++ describe found ++ ", expected " ++ expected
  | .outOfRange value expected =>
      "invalid value: " ++ describe (.int value) ++ ", expected " ++ expected
  | .tooShort position record members =>
      "invalid length " ++ toString position ++ ", expected struct " ++ record ++ " with "
        ++ toString members ++ if members = 1 then " element" else " elements"
  | .tooLong length =>
      "invalid length " ++ toString length ++ ", expected fewer elements in array"
  | .unknownVariant name first second =>
      "unknown variant `" ++ name ++ "`, expected `" ++ first ++ "` or `" ++ second ++ "`"
  | .notOneVariant => "invalid value: map, expected map with a single key"

end ShapeError

/-- A function from JSON values that may refuse one. -/
abbrev JsonReader (α : Type) := Json → Except ShapeError α

namespace JsonReader

/-- A text. -/
def str : JsonReader String
  | .str text => .ok text
  | other => .error (.invalidType other "a string")

/-- A truth value. -/
def bool : JsonReader Bool
  | .bool value => .ok value
  | other => .error (.invalidType other "a boolean")

/-- A natural number below a bound; the type it is read for is named in errors. -/
def natBelow (bound : Nat) (expected : String) : JsonReader Nat
  | .int value =>
      if 0 ≤ value ∧ value < bound then .ok value.toNat else .error (.outOfRange value expected)
  | other => .error (.invalidType other expected)

/-- A number of 32 bits. -/
def word32 : JsonReader UInt32 := fun json =>
  (natBelow UInt32.size "u32" json).map UInt32.ofNat

/-- A number of 64 bits. -/
def word64 : JsonReader UInt64 := fun json =>
  (natBelow UInt64.size "u64" json).map UInt64.ofNat

/-- A position or a count. -/
def size : JsonReader UInt64 := fun json =>
  (natBelow UInt64.size "usize" json).map UInt64.ofNat

/-- A value or `null`. -/
def option {α : Type} (read : JsonReader α) : JsonReader (Option α)
  | .null => .ok none
  | other => (read other).map some

/-- A sequence, read from its start to the first refusal. -/
def list {α : Type} (read : JsonReader α) : JsonReader (List α)
  | .arr items => items.mapM read
  | other => .error (.invalidType other "a sequence")

/-- An object with values of one kind, read in order of the names. -/
def table {α : Type} (read : JsonReader α) : JsonReader (Table α)
  | .obj fields =>
      (fields.mapM fun field => (read field.2).map fun value => (field.1, value)).map Table.ofList
  | other => .error (.invalidType other "a map")

/-- An object whose values stay as they are. -/
def tree : JsonReader (Table Json) :=
  table .ok

end JsonReader

/-- A member of a record: its name, how it is read, and what stands for it when it is not there. -/
structure Member (α : Type) where
  /-- The name of the member in an object. -/
  name : String
  /-- How the value is read. -/
  read : JsonReader α
  /-- The value when an object has no such member; without one the member is required. -/
  missing : Option α
  /-- The value when a sequence ends before the member; without one the member is required. -/
  beyondEnd : Option α

namespace Member

/-- A member that must be there. -/
def required {α : Type} (name : String) (read : JsonReader α) : Member α where
  name := name
  read := read
  missing := none
  beyondEnd := none

/-- A member with a default. -/
def withDefault {α : Type} (name : String) (read : JsonReader α) (value : α) : Member α where
  name := name
  read := read
  missing := some value
  beyondEnd := some value

/-- A member that an object may leave out but a sequence may not. -/
def optional {α : Type} (name : String) (read : JsonReader α) : Member (Option α) where
  name := name
  read := .option read
  missing := some none
  beyondEnd := none

/-- A member that both an object and a sequence may leave out. -/
def optionalTail {α : Type} (name : String) (read : JsonReader α) : Member (Option α) :=
  withDefault name (.option read) none

end Member

/-- A way to read a value of a record type from an object and from a sequence. -/
structure RecordReader (α : Type) where
  /-- The members, with the judgement of a value that is present. -/
  members : List (String × JsonReader Unit)
  /-- Build the value from the members of an object. -/
  ofFields : List (String × Json) → Except ShapeError α
  /-- Build the value from a sequence, given the error for an end at a position. -/
  ofItems : (Nat → ShapeError) → List Json → Except ShapeError (α × List Json)

namespace RecordReader

/-- The record of no members. -/
def make {α : Type} (value : α) : RecordReader α where
  members := []
  ofFields := fun _ => .ok value
  ofItems := fun _ items => .ok (value, items)

/-- Read one more member and hand it to the value built so far. -/
def field {α β : Type} (reader : RecordReader (α → β)) (member : Member α) : RecordReader β where
  members := reader.members ++ [(member.name, fun json => (member.read json).map fun _ => ())]
  ofFields := fun fields => do
    let build ← reader.ofFields fields
    match Entries.find? member.name fields with
    | some json => return build (← member.read json)
    | none =>
        match member.missing with
        | some value => return build value
        | none => .error (.missingField member.name)
  ofItems := fun ended items => do
    let (build, rest) ← reader.ofItems ended items
    match rest with
    | json :: rest => return (build (← member.read json), rest)
    | [] =>
        match member.beyondEnd with
        | some value => return (build value, [])
        | none => .error (ended reader.members.length)

/-- Judge the members of an object that the record knows, in the order of the object. -/
def judge {α : Type} (reader : RecordReader α) (fields : List (String × Json)) :
    Except ShapeError Unit :=
  fields.forM fun field =>
    match Entries.find? field.1 reader.members with
    | some check => check field.2
    | none => .ok ()

/-- Read an object. -/
def readFields {α : Type} (reader : RecordReader α) (fields : List (String × Json)) :
    Except ShapeError α := do
  reader.judge fields
  reader.ofFields fields

/-- Read a record of the given name from an object or from the sequence of its members. -/
def read {α : Type} (reader : RecordReader α) (record : String) : JsonReader α
  | .obj fields => reader.readFields fields
  | .arr items => do
      let ended := fun position => ShapeError.tooShort position record reader.members.length
      let (value, rest) ← reader.ofItems ended items
      if rest.isEmpty then return value else .error (.tooLong items.length)
  | other => .error (.invalidType other ("struct " ++ record))

end RecordReader
end BucketCatalog
