import BucketCatalog.Json.Record

/-!
# Pages of a listing

What one listing call answers: objects, rolled-up prefixes, and whether there is more.  A collection
without entries is absent rather than empty.
-/

namespace BucketCatalog
namespace Listing

/-- An object as a listing shows it. -/
structure Listed where
  /-- The full key. -/
  key : String
  /-- The number of bytes. -/
  size : UInt64
  deriving DecidableEq

namespace Listed

/-- The members of a listed object. -/
def reader : RecordReader Listed :=
  RecordReader.make Listed.mk
    |>.field (.required "key" .str)
    |>.field (.required "size" .word64)

/-- Read a listed object. -/
def ofJson : JsonReader Listed :=
  reader.read "ListedObject"

/-- Write a listed object. -/
def toJson (object : Listed) : Json :=
  .object [("key", .str object.key), ("size", .nat object.size.toNat)]

end Listed

/-- One page of a listing. -/
structure Page where
  /-- The objects, if there are any. -/
  contents : Option (List Listed)
  /-- The rolled-up prefixes, if there are any. -/
  commonPrefixes : Option (List String)
  /-- Whether there are entries after this page. -/
  isTruncated : Bool
  /-- The token that the next page is asked for with. -/
  nextToken : Option String
  deriving DecidableEq

namespace Page

/-- The token to ask for the next page with.  Only a page with entries after it has one; a token on
any other page means nothing. -/
def next? (page : Page) : Option String :=
  if page.isTruncated then page.nextToken else none

/-- The members of a page. -/
def reader : RecordReader Page :=
  RecordReader.make Page.mk
    |>.field (.optional "contents" (.list Listed.ofJson))
    |>.field (.optional "common_prefixes" (.list .str))
    |>.field (.required "is_truncated" .bool)
    |>.field (.optional "next_continuation_token" .str)

/-- Read a page. -/
def ofJson : JsonReader Page :=
  reader.read "ListPage"

/-- Write a page. -/
def toJson (page : Page) : Json :=
  .object
    [("contents", .option (.list Listed.toJson) page.contents),
      ("common_prefixes", .option (.list .str) page.commonPrefixes),
      ("is_truncated", .bool page.isTruncated),
      ("next_continuation_token", .optionStr page.nextToken)]

end Page
end Listing
end BucketCatalog
