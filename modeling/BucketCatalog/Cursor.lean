import BucketCatalog.Json.Record

/-!
# Listing positions

Where the next walk over an asset starts: at the beginning, or at the page of a saved token.
-/

namespace BucketCatalog

/-- A saved position in a listing. -/
structure Cursor where
  /-- The token of the page to read next; none at the beginning. -/
  token : Option String
  deriving DecidableEq, Inhabited

namespace Cursor

/-- The position before the first page. -/
def start : Cursor where
  token := none

/-- The position of a token. -/
def ofToken (token : String) : Cursor where
  token := some token

/-- Whether the next walk goes on with an unfinished one. -/
def isResuming (cursor : Cursor) : Bool :=
  cursor.token.isSome

/-- The members of a cursor. -/
def reader : RecordReader Cursor :=
  RecordReader.make Cursor.mk
    |>.field (.optional "continuation_token" .str)

/-- Read a cursor. -/
def ofJson : JsonReader Cursor :=
  reader.read "ListingCursor"

/-- Write a cursor. -/
def toJson (cursor : Cursor) : Json :=
  .object [("continuation_token", .optionStr cursor.token)]

end Cursor
end BucketCatalog
