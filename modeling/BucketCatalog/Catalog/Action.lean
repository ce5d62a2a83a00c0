import BucketCatalog.Catalog

/-!
# Actions on a catalog

Everything that is asked of a catalog while it is in use, as one type, and what each of it comes to.
A stream of batches is an action together with the number of batches that are taken from it, since
it is then that pages are read and the cursor moves.
-/

namespace BucketCatalog

/-- What is asked of a catalog. -/
inductive Action where
  /-- The ids of all partitions of an asset. -/
  | partitionIds (asset : String)
  /-- The ids of all partitions that a request asks for. -/
  | partitionIdsFor (request : PartitionsRequest)
  /-- The answer to a request; if it is a stream, batches are taken while they are wanted. -/
  | answer (request : BatchRequest) (wanted : Option Nat)
  /-- The batches of an asset, taken while they are wanted. -/
  | batches (asset : String) (overrides : Overrides) (wanted : Option Nat)
  /-- The objects of the batches of an asset, each opened when its turn comes. -/
  | objects (asset : String) (wanted : Option Nat)
  /-- The object of one batch. -/
  | fetch (descriptor : Descriptor)
  /-- Start over with an asset. -/
  | reset (asset : String)

/-- An object with its address. -/
abbrev Fetched := Locator × Retrieved

/-- What an action comes to. -/
inductive Outcome where
  /-- Nothing to tell. -/
  | done
  /-- The ids of partitions. -/
  | partitionIds (ids : List PartitionId)
  /-- The batch of one partition. -/
  | single (descriptor : Descriptor)
  /-- Batches of a stream. -/
  | stream (walked : Walked Descriptor)
  /-- Objects of the batches of a stream. -/
  | objects (walked : Walked (Except Fault Fetched))
  /-- One object. -/
  | object (fetched : Fetched)
  /-- The action was refused or failed. -/
  | refused (fault : Fault)

namespace Outcome

/-- The outcome of a result. -/
def ofResult {α : Type} (outcome : α → Outcome) : Except Fault α → Outcome
  | .ok value => outcome value
  | .error fault => .refused fault

/-- The single batch of an outcome, if that is what it is. -/
def single? : Outcome → Option Descriptor
  | .single descriptor => some descriptor
  | _ => none

/-- The batches of an outcome, if it is a stream. -/
def stream? : Outcome → Option (Walked Descriptor)
  | .stream walked => some walked
  | _ => none

end Outcome

namespace Catalog

/-- Take batches from a stream while they are wanted. -/
def take {State : Type} (catalog : Catalog) (remote : Remote State) (calls : Nat)
    (stream : BatchStream) (wanted : Option Nat) (session : Session State) :
    Outcome × Catalog × Session State :=
  let (walked, catalog, session) :=
    catalog.drain remote calls stream (fun descriptor session => (descriptor, session)) wanted
      session
  (.stream walked, catalog, session)

/-- Carry out an action.  Each walk over an asset reads at most `calls` pages. -/
def perform {State : Type} (catalog : Catalog) (remote : Remote State) (calls : Nat)
    (action : Action) (session : Session State) : Outcome × Catalog × Session State :=
  match action with
  | .partitionIds name =>
      let (ids, session) := catalog.partitionIds remote calls name session
      (.ofResult .partitionIds ids, catalog, session)
  | .partitionIdsFor request =>
      let (ids, session) := catalog.partitionIdsFor remote calls request session
      (.ofResult .partitionIds ids, catalog, session)
  | .answer request wanted =>
      match catalog.answer remote calls request session with
      | (.error fault, session) => (.refused fault, catalog, session)
      | (.ok (.single descriptor), session) => (.single descriptor, catalog, session)
      | (.ok (.stream stream), session) => catalog.take remote calls stream wanted session
  | .batches name overrides wanted =>
      match catalog.batches name overrides with
      | .error fault => (.refused fault, catalog, session)
      | .ok stream => catalog.take remote calls stream wanted session
  | .objects name wanted =>
      match catalog.batches name .none with
      | .error fault => (.refused fault, catalog, session)
      | .ok stream =>
          let (walked, catalog, session) :=
            catalog.drain remote calls stream remote.session.fetch wanted session
          (.objects walked, catalog, session)
  | .fetch descriptor =>
      let (fetched, session) := remote.session.fetch descriptor session
      (.ofResult .object fetched, catalog, session)
  | .reset name => (.done, catalog.reset name, session)

end Catalog
end BucketCatalog
