import BucketCatalog.Listing.Page
import BucketCatalog.Listing.Request
import BucketCatalog.Retrieved

/-!
# Remote stores

A catalog sees a store through two calls: list a page, and retrieve an object.  A call may change
the state of the store, so that a store whose answers vary, or which others write to between two
calls, is a `Remote` like any other.
-/

namespace BucketCatalog

/-- A store with a state, seen through its two calls. -/
structure Remote (State : Type) where
  /-- One page of a listing. -/
  list : Listing.Request → State → Except StoreFailure Listing.Page × State
  /-- The object at a key of a bucket. -/
  retrieve : String → String → State → Except StoreFailure Retrieved × State

end BucketCatalog
