import BucketCatalog.Json
import BucketCatalog.Text.Quoted

/-!
# Failures of a store

A call to a store, or the construction of a client for it, fails with a text, the name of the
component it comes from, and whether the same call may succeed later.  Nothing here retries.
-/

namespace BucketCatalog

/-- The point of an interaction with a store at which it failed. -/
inductive Stage where
  /-- A client was being built; nothing was sent. -/
  | connect
  /-- A listing or a retrieval was asked for. -/
  | request
  deriving DecidableEq

/-- The name of a stage. -/
def Stage.name : Stage → String
  | .connect => "Connect"
  | .request => "Request"

/-- A failed interaction with a store. -/
structure StoreFailure where
  /-- When it failed. -/
  stage : Stage
  /-- The component that reports it. -/
  origin : String
  /-- What happened, without the origin. -/
  text : String
  /-- Whether the same call may succeed later. -/
  retryable : Bool
  /-- The text of the failure behind this one. -/
  source : Option String
  deriving DecidableEq

namespace StoreFailure

/-- A failed call. -/
def request (text origin : String) (retryable : Bool) : StoreFailure where
  stage := .request
  origin := origin
  text := text
  retryable := retryable
  source := none

/-- A client that could not be built. -/
def connect (text origin : String) (retryable : Bool) : StoreFailure where
  stage := .connect
  origin := origin
  text := text
  retryable := retryable
  source := none

/-- A call that names another bucket than the one that is served. -/
def otherBucket (requested served : String) : StoreFailure :=
  request
    ("bucket '" ++ requested ++ "' is not served by this client (serves '" ++ served ++ "')")
    "bucket" false

/-- The failure with another one behind it. -/
def withSource (failure : StoreFailure) (source : String) : StoreFailure :=
  { failure with source := some source }

/-- The text shown for a failure, which starts with its origin. -/
def message (failure : StoreFailure) : String :=
  match failure.stage with
  | .connect => "[" ++ failure.origin ++ "] cannot connect: " ++ failure.text
  | .request => "[" ++ failure.origin ++ "] " ++ failure.text

/-- All parts of a failure on one line. -/
def details (failure : StoreFailure) : String :=
  let source :=
    match failure.source with
    | none => "None"
    | some text => "Some(" ++ Text.quoted text ++ ")"
  "Error \x7b stage: " ++ failure.stage.name
    ++ ", origin: " ++ Text.quoted failure.origin
    ++ ", message: " ++ Text.quoted failure.text
    ++ ", retryable: " ++ toString failure.retryable
    ++ ", source: " ++ source ++ " \x7d"

end StoreFailure
end BucketCatalog
