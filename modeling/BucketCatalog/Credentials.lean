import BucketCatalog.Catalog

/-!
# Credentials

As whom a bucket is read.  A client is built from credentials without sending anything, so what can
be wrong is only what they lack: the bucket, or one half of a pair of keys.
-/

namespace BucketCatalog

/-- As whom and where a bucket is read. -/
structure Credentials where
  /-- The bucket. -/
  bucket : String
  /-- The region of the bucket. -/
  region : String
  /-- Where the store is, if it is not at the usual place. -/
  endpoint : Option String
  /-- The public half of the keys. -/
  accessKeyId : Option String
  /-- The secret half of the keys. -/
  secretAccessKey : Option String
  /-- The token of a temporary session. -/
  sessionToken : Option String
  deriving DecidableEq

namespace Credentials

/-- The region when none is given. -/
def defaultRegion : String := "us-east-1"

/-- The credentials for a bucket without keys. -/
def ofBucket (bucket : String) : Credentials where
  bucket := bucket
  region := defaultRegion
  endpoint := none
  accessKeyId := none
  secretAccessKey := none
  sessionToken := none

/-- The members of credentials. -/
def reader : RecordReader Credentials :=
  RecordReader.make Credentials.mk
    |>.field (.required "bucket" .str)
    |>.field (.withDefault "region" .str defaultRegion)
    |>.field (.optionalTail "endpoint" .str)
    |>.field (.optionalTail "accessKeyId" .str)
    |>.field (.optionalTail "secretAccessKey" .str)
    |>.field (.optionalTail "sessionToken" .str)

/-- Read credentials. -/
def ofJson : JsonReader Credentials :=
  reader.read "S3Credentials"

/-- Write credentials. -/
def toJson (credentials : Credentials) : Json :=
  .object
    [("bucket", .str credentials.bucket),
      ("region", .str credentials.region),
      ("endpoint", .optionStr credentials.endpoint),
      ("accessKeyId", .optionStr credentials.accessKeyId),
      ("secretAccessKey", .optionStr credentials.secretAccessKey),
      ("sessionToken", .optionStr credentials.sessionToken)]

/-- The name of the provider that clients are built by. -/
def provider : String := "s3"

/-- The failure to build a client for a reason of the provider's own. -/
def incomplete (missing : String) : StoreFailure :=
  let text := "Generic S3 error: Missing " ++ missing
  (StoreFailure.connect text provider false).withSource text

/-- Build a client; what it serves is the bucket that is answered. -/
def connect (credentials : Credentials) : Except StoreFailure String :=
  if credentials.bucket.isEmpty then
    .error (.connect "bucket name is empty" provider false)
  else
    match credentials.accessKeyId, credentials.secretAccessKey with
    | some _, none => .error (incomplete "SecretAccessKey")
    | none, some _ => .error (incomplete "AccessKeyId")
    | _, _ => .ok credentials.bucket

end Credentials

/-- The catalog of settings over a client that is built from credentials for the same bucket. -/
def Catalog.connect (settings : Settings) (credentials : Credentials) : Except Fault Catalog :=
  if credentials.bucket = settings.bucket then
    match credentials.connect with
    | .error failure => .error (.noClient failure)
    | .ok _ => Catalog.ofSettings settings
  else .error (.settings (.otherBucket credentials.bucket settings.bucket))

end BucketCatalog
