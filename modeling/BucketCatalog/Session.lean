import BucketCatalog.Partition
import BucketCatalog.Remote

/-!
# Sessions

What the operations of a catalog share and change: the store, the clock that sentinels are stamped
with, and the warnings given so far.
-/

namespace BucketCatalog

/-- A store in use, with a clock and the warnings that were given. -/
structure Session (State : Type) where
  /-- The state of the store. -/
  store : State
  /-- The clock for sentinels. -/
  clock : Clock
  /-- The warnings, oldest first. -/
  warnings : List Warning

namespace Session

/-- A session in which nothing was asked for yet. -/
def ofStore {State : Type} (store : State) (clock : Clock) : Session State where
  store := store
  clock := clock
  warnings := []

/-- Give warnings. -/
def warn {State : Type} (session : Session State) (warnings : List Warning) : Session State :=
  { session with warnings := session.warnings ++ warnings }

/-- The id of a key, stamped by the clock of the session if it is a sentinel. -/
def identify {State : Type} (asset : Asset) (key : String) (session : Session State) :
    PartitionId × Session State :=
  let (id, warning, clock) := asset.identify key session.clock
  (id, { session with clock := clock }.warn warning.toList)

end Session

/-- A remote store within a session. -/
def Remote.session {State : Type} (remote : Remote State) : Remote (Session State) where
  list := fun request session =>
    let (answer, store) := remote.list request session.store
    (answer, { session with store := store })
  retrieve := fun bucket key session =>
    let (answer, store) := remote.retrieve bucket key session.store
    (answer, { session with store := store })

end BucketCatalog
