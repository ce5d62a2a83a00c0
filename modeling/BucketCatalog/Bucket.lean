import BucketCatalog.Bucket.StorageError
import BucketCatalog.Listing.Entry
import BucketCatalog.Remote

/-!
# Buckets in memory

A bucket holds objects at stored paths, in byte order.  It lists them in pages: a token is the name
of the last entry handed out, and the listing goes on after it.  The token is made into a path like
any key before it bounds what is read, and entries that are not past the token itself are left out.

A bucket can be told to fail: after some entries of every listing, at every retrieval, or in the
middle of every body.
-/

namespace BucketCatalog

/-- An object as it is put into a bucket. -/
structure Stored where
  /-- The media type of the content. -/
  contentType : Option String
  /-- How the content is encoded. -/
  contentEncoding : Option String
  /-- The bytes. -/
  body : List UInt8
  deriving DecidableEq

/-- The number of bytes of a stored object. -/
def Stored.size (object : Stored) : UInt64 :=
  UInt64.ofNat object.body.length

/-- The errors that a bucket is told to meet. -/
structure Disturbance where
  /-- The error of every listing, and after how many of the objects below its base it comes. -/
  listing : Option (StorageError × Nat)
  /-- The error of every retrieval. -/
  retrieval : Option StorageError
  /-- The error of every body, after a first chunk. -/
  body : Option StorageError
  deriving DecidableEq, Inhabited

/-- The bucket meets no errors. -/
def Disturbance.none : Disturbance where
  listing := Option.none
  retrieval := Option.none
  body := Option.none

/-- A bucket in memory. -/
structure Bucket where
  /-- The name that calls have to give. -/
  name : String
  /-- The objects at their stored paths. -/
  objects : Table Stored
  /-- The errors it meets. -/
  disturbance : Disturbance

namespace Bucket

/-- The bucket of a name without objects. -/
def empty (name : String) : Bucket where
  name := name
  objects := .empty
  disturbance := .none

/-- Put an object at the path of a key, in place of what is there. -/
def put (bucket : Bucket) (key : String) (object : Stored) : Bucket :=
  { bucket with objects := bucket.objects.insert (StoredPath.ofKey key) object }

/-- Remove what is at the path of a key. -/
def delete (bucket : Bucket) (key : String) : Bucket :=
  { bucket with objects := bucket.objects.erase (StoredPath.ofKey key) }

/-- All objects with their sizes, in byte order of their paths. -/
def listed (bucket : Bucket) : List Listing.Listed :=
  bucket.objects.entries.map fun entry => ⟨entry.1, entry.2.size⟩

/-- The part of a prefix that ends whole segments, as a path; empty if there is none. -/
def basePath (keyPrefix : String) : String :=
  match Text.beforeLast? '/' keyPrefix.toList with
  | none => ""
  | some base => StoredPath.ofKey (String.ofList base)

/-- Whether a path comes after the path of a token. -/
def isAfterOffset (token : Option String) (path : String) : Bool :=
  match token with
  | none => true
  | some token => StoredPath.ofKey token < path

/-- What the bucket delivers below the base of a prefix, after the path of a token. -/
def feed (bucket : Bucket) (keyPrefix : String) (token : Option String) : Listing.Feed :=
  let below := bucket.listed.filter fun object => StoredPath.isBelow (basePath keyPrefix) object.key
  let delivered :=
    match bucket.disturbance.listing with
    | none => below
    | some (_, count) => below.take count
  { objects := delivered.filter fun object => isAfterOffset token object.key
    failure := bucket.disturbance.listing.map fun disturbance => disturbance.1.failure }

/-- One page of a listing. -/
def list (bucket : Bucket) (request : Listing.Request) : Except StoreFailure Listing.Page :=
  if request.bucket = bucket.name then do
    let bounds : Listing.Bounds :=
      { keyPrefix := request.keyPrefix
        delimiter := request.delimiter
        after := request.token
        limit := request.pageSize + 1 }
    let entries ← (bucket.feed request.keyPrefix request.token).entries bounds
    return .ofEntries entries.entries request.pageSize
  else .error (.otherBucket request.bucket bucket.name)

/-- The bytes that arrive before the body of an object fails. -/
def firstChunk : List UInt8 :=
  "partial".toUTF8.toList

/-- The object at the path of a key. -/
def retrieve (bucket : Bucket) (name key : String) : Except StoreFailure Retrieved :=
  let path := StoredPath.ofKey key
  if name = bucket.name then
    match bucket.disturbance.retrieval, bucket.objects.get? path with
    | some error, _ => .error error.failure
    | none, none =>
        .error
          (StorageError.notFound path ("No data in memory found. Location: " ++ path)).failure
    | none, some object =>
        .ok
          { contentType := object.contentType
            contentEncoding := object.contentEncoding
            location := path
            size := object.size
            chunks := if bucket.disturbance.body.isSome then [firstChunk] else [object.body]
            failure := bucket.disturbance.body.map StorageError.failure }
  else .error (.otherBucket name bucket.name)

/-- A bucket as a remote store, which its calls leave as it is. -/
def remote : Remote Bucket where
  list := fun request bucket => (bucket.list request, bucket)
  retrieve := fun name key bucket => (bucket.retrieve name key, bucket)

end Bucket
end BucketCatalog
