import BucketCatalog.Json.Record

/-!
# Call-level settings of a batch

What a single call may set for the batches it asks for: the reader method, options for the reader,
and how many rows to read.
-/

namespace BucketCatalog

/-- Options handed to the reader of a batch, by name. -/
abbrev ReaderOptions := Table Json

/-- The settings that a call brings along. -/
structure Overrides where
  /-- The reader method, if the call names one. -/
  readerMethod : Option String
  /-- The reader options of the call. -/
  readerOptions : ReaderOptions
  /-- The most rows to read; zero means no limit. -/
  limit : Option UInt64

namespace Overrides

/-- A call that sets nothing. -/
def none : Overrides where
  readerMethod := Option.none
  readerOptions := .empty
  limit := Option.none

instance : Inhabited Overrides :=
  ⟨none⟩

/-- The members of the settings of a call. -/
def reader : RecordReader Overrides :=
  RecordReader.make Overrides.mk
    |>.field (.optionalTail "reader_method" .str)
    |>.field (.withDefault "reader_options" .tree .empty)
    |>.field (.optionalTail "limit" .word64)

/-- Read the settings of a call. -/
def ofJson : JsonReader Overrides :=
  reader.read "BatchOverrides"

/-- The members to write: those that are set. -/
def fields (overrides : Overrides) : List (String × Json) :=
  (overrides.readerMethod.map fun method => ("reader_method", Json.str method)).toList
    ++ (if overrides.readerOptions.isEmpty then []
        else [("reader_options", Json.ofTable overrides.readerOptions)])
    ++ (overrides.limit.map fun limit => ("limit", Json.nat limit.toNat)).toList

/-- Write the settings of a call. -/
def toJson (overrides : Overrides) : Json :=
  .object overrides.fields

end Overrides
end BucketCatalog
