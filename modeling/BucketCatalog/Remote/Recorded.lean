import BucketCatalog.Remote

/-!
# Recorded calls

A store whose calls are written down in order.  After a given number of calls it answers no more.
-/

namespace BucketCatalog

/-- A call to a store. -/
inductive Call where
  /-- A listing. -/
  | list (request : Listing.Request)
  /-- A retrieval. -/
  | retrieve (bucket key : String)
  deriving DecidableEq

/-- A store with the calls made to it. -/
structure Recorded (State : Type) where
  /-- The state of the store. -/
  store : State
  /-- The calls, oldest first. -/
  calls : List Call

namespace Recorded

/-- A store to which no call was made yet. -/
def ofStore {State : Type} (store : State) : Recorded State where
  store := store
  calls := []

/-- The answer when no more calls are allowed. -/
def exhausted : StoreFailure :=
  .request "call limit reached" "driver" false

/-- Make a call and write it down, if fewer than `limit` calls were made. -/
def make {State Answer : Type} (limit : Nat) (call : Call)
    (answer : State → Except StoreFailure Answer × State) (recorded : Recorded State) :
    Except StoreFailure Answer × Recorded State :=
  if recorded.calls.length < limit then
    let (result, store) := answer recorded.store
    (result, { store := store, calls := recorded.calls ++ [call] })
  else (.error exhausted, recorded)

end Recorded

/-- A remote store whose first `limit` calls are answered and written down. -/
def Remote.recorded {State : Type} (remote : Remote State) (limit : Nat) :
    Remote (Recorded State) where
  list := fun request => Recorded.make limit (.list request) (remote.list request)
  retrieve := fun bucket key =>
    Recorded.make limit (.retrieve bucket key) (remote.retrieve bucket key)

end BucketCatalog
