import BucketCatalog.StoreFailure

/-!
# Errors of storage backends

The ways in which a storage backend refuses an operation, their texts, and which of them a caller
may try again.
-/

namespace BucketCatalog

/-- An error of a storage backend; `cause` is the text of what is behind it. -/
inductive StorageError where
  /-- Anything without a kind of its own. -/
  | generic (store cause : String)
  /-- Nothing is stored at a path. -/
  | notFound (path cause : String)
  /-- A path that cannot be stored. -/
  | invalidPath (cause : String)
  /-- An operation that the backend does not have. -/
  | notSupported (cause : String)
  /-- Something is stored at a path already. -/
  | alreadyExists (path cause : String)
  /-- A condition of the call does not hold. -/
  | precondition (path cause : String)
  /-- The object has not changed. -/
  | notModified (path cause : String)
  /-- An operation that is yet to come. -/
  | notImplemented
  /-- The caller may not do this. -/
  | permissionDenied (path cause : String)
  /-- The caller is not known. -/
  | unauthenticated (path cause : String)
  /-- A setting that the backend does not have. -/
  | unknownSetting (store key : String)
  deriving DecidableEq

namespace StorageError

/-- The text shown for an error. -/
def message : StorageError → String
  | .generic store cause => "Generic " ++ store ++ " error: " ++ cause
  | .notFound path cause => "Object at location " ++ path ++ " not found: " ++ cause
  | .invalidPath cause => "Encountered object with invalid path: " ++ cause
  | .notSupported cause => "Operation not supported: " ++ cause
  | .alreadyExists path cause => "Object at location " ++ path ++ " already exists: " ++ cause
  | .precondition path cause => "Request precondition failure for path " ++ path ++ ": " ++ cause
  | .notModified path cause => "Object at location " ++ path ++ " not modified: " ++ cause
  | .notImplemented => "Operation not yet implemented."
  | .permissionDenied path cause =>
      "The operation lacked the necessary privileges to complete for path " ++ path ++ ": " ++ cause
  | .unauthenticated path cause =>
      "The operation lacked valid authentication credentials for path " ++ path ++ ": " ++ cause
  | .unknownSetting store key =>
      "Configuration key: '" ++ key ++ "' is not valid for store '" ++ store ++ "'."

/-- Whether the same operation may succeed later. -/
def isRetryable : StorageError → Bool
  | .notFound .. | .permissionDenied .. | .unauthenticated .. | .invalidPath ..
  | .notSupported .. => false
  | _ => true

/-- The failure of a call that met an error of the backend. -/
def failure (error : StorageError) : StoreFailure :=
  (StoreFailure.request error.message "object-store" error.isRetryable).withSource error.message

end StorageError
end BucketCatalog
