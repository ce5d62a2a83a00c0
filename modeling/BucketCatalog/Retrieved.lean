import BucketCatalog.StoreFailure
import BucketCatalog.StoredPath

/-!
# Retrieved objects

What a store answers for one object: its headers, where it is stored, its size, and its bytes in
chunks, after which the transfer may still fail.
-/

namespace BucketCatalog

/-- An object as a store hands it out. -/
structure Retrieved where
  /-- The media type of the content. -/
  contentType : Option String
  /-- How the content is encoded. -/
  contentEncoding : Option String
  /-- The path of the object in its bucket. -/
  location : String
  /-- The size that the store states. -/
  size : UInt64
  /-- The bytes, in the order of their arrival. -/
  chunks : List (List UInt8)
  /-- The failure after the last chunk, if there is one. -/
  failure : Option StoreFailure
  deriving DecidableEq

namespace Retrieved

/-- All bytes of an object, unless their transfer fails. -/
def bytes (object : Retrieved) : Except StoreFailure (List UInt8) :=
  match object.failure with
  | none => .ok object.chunks.flatten
  | some failure => .error failure

/-- All headers of an object on one line. -/
def details (object : Retrieved) : String :=
  let optional : Option String → String
    | none => "None"
    | some text => "Some(" ++ Text.quoted text ++ ")"
  "GetOutput \x7b content_type: " ++ optional object.contentType
    ++ ", content_encoding: " ++ optional object.contentEncoding
    ++ ", meta: ObjectMeta \x7b location: Path \x7b raw: " ++ Text.quoted object.location
    ++ " \x7d, last_modified: 1970-01-01T00:00:00Z, size: " ++ toString object.size.toNat
    ++ ", e_tag: None, version: None \x7d, .. \x7d"

end Retrieved
end BucketCatalog
