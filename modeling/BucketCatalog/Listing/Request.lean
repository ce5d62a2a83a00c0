import BucketCatalog.Json.Record

/-!
# Listing requests

What one listing call asks for: a bucket, the text its keys start with, the delimiter to roll up on,
how many entries to return, and where the page before it ended.
-/

namespace BucketCatalog
namespace Listing

/-- The parameters of one listing call. -/
structure Request where
  /-- The bucket to list. -/
  bucket : String
  /-- Only keys that start with this text are listed. -/
  keyPrefix : String
  /-- Keys are rolled up at its first occurrence after the prefix; an empty one rolls up nothing. -/
  delimiter : String
  /-- The most entries a page may hold. -/
  maxKeys : UInt32
  /-- The token of the page before, if this is not the first. -/
  token : Option String
  deriving DecidableEq

namespace Request

/-- The first page of 1000 keys under a prefix, rolled up on `/`. -/
def ofPrefix (bucket keyPrefix : String) : Request where
  bucket := bucket
  keyPrefix := keyPrefix
  delimiter := "/"
  maxKeys := 1000
  token := none

/-- The page size, which is never zero. -/
def pageSize (request : Request) : Nat :=
  max 1 request.maxKeys.toNat

/-- The members of a request. -/
def reader : RecordReader Request :=
  RecordReader.make Request.mk
    |>.field (.required "bucket" .str)
    |>.field (.required "prefix" .str)
    |>.field (.required "delimiter" .str)
    |>.field (.required "max_keys" .word32)
    |>.field (.optional "continuation_token" .str)

/-- Read a request. -/
def ofJson : JsonReader Request :=
  reader.read "ListRequest"

/-- Write a request. -/
def toJson (request : Request) : Json :=
  .object
    [("bucket", .str request.bucket),
      ("prefix", .str request.keyPrefix),
      ("delimiter", .str request.delimiter),
      ("max_keys", .nat request.maxKeys.toNat),
      ("continuation_token", .optionStr request.token)]

end Request
end Listing
end BucketCatalog
