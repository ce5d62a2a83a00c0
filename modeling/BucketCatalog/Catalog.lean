import BucketCatalog.Batch.Descriptor
import BucketCatalog.Session
import BucketCatalog.Walk

/-!
# Catalogs

A catalog holds the assets of one bucket and a cursor for each.  Streams of batches go on from the
cursor of their asset and move it.  Everything that has to see all keys of an asset, such as a list
of its partitions or the search for one of them, walks over it from the beginning and leaves the
cursor alone.

Every walk reads at most a given number of pages.
-/

namespace BucketCatalog

/-- The assets of one bucket, each with the position of its listing. -/
structure Catalog where
  /-- The name of the catalog. -/
  name : String
  /-- What all batches have in common. -/
  defaults : BatchDefaults
  /-- The assets. -/
  assets : Table Asset
  /-- Where the next stream of each asset starts. -/
  cursors : Table Cursor

/-- The batches of an asset that are still to be handed out. -/
structure BatchStream where
  /-- The asset. -/
  asset : Asset
  /-- The settings of the call. -/
  overrides : Overrides

/-- The answer to a request for batches. -/
inductive BatchAnswer where
  /-- The batch of the requested partition. -/
  | single (descriptor : Descriptor)
  /-- All batches of the asset. -/
  | stream (stream : BatchStream)

/-- The object that a descriptor points at, opened in a store. -/
def Remote.fetch {State : Type} (remote : Remote State) (descriptor : Descriptor) (state : State) :
    Except Fault (Locator × Retrieved) × State :=
  match descriptor.locate with
  | .error fault => (.error fault, state)
  | .ok locator =>
      match remote.retrieve locator.bucket locator.key state with
      | (.error failure, state) => (.error (.store failure), state)
      | (.ok object, state) => (.ok (locator, object), state)

namespace Catalog

/-- The catalog of settings, all cursors at the beginning. -/
def ofSettings (settings : Settings) : Except Fault Catalog :=
  match settings.resolveAssets with
  | .error fault => .error (.settings fault)
  | .ok assets =>
      .ok
        { name := settings.name
          defaults := settings.batchDefaults
          assets := assets
          cursors := assets.map fun _ _ => .start }

/-- The bucket of the catalog. -/
def bucket (catalog : Catalog) : String :=
  catalog.defaults.bucket

/-- The names and kinds of all assets. -/
def kinds (catalog : Catalog) : List (String × AssetKind) :=
  catalog.assets.entries.map fun entry => (entry.1, entry.2.kind)

/-- The position of an asset. -/
def cursor? (catalog : Catalog) (asset : String) : Option Cursor :=
  catalog.cursors.get? asset

/-- Move an asset to a position. -/
def setCursor (catalog : Catalog) (asset : String) (cursor : Cursor) : Catalog :=
  { catalog with cursors := catalog.cursors.insert asset cursor }

/-- Move an asset to the beginning, if the catalog has it. -/
def reset (catalog : Catalog) (asset : String) : Catalog :=
  if catalog.cursors.contains asset then catalog.setCursor asset .start else catalog

/-- The failure of a scan that did not come to an end within the allowed number of pages. -/
def scanUnfinished : StoreFailure :=
  .request "too many pages" "catalog" true

/-- All keys of an asset with their partition ids, from the beginning. -/
def scan {State : Type} (catalog : Catalog) (remote : Remote State) (calls : Nat) (asset : Asset)
    (session : Session State) : Except Fault (List (String × PartitionId)) × Session State :=
  let act := fun key session =>
    let (id, session) := Session.identify asset key session
    ((key, id), session)
  let (walked, session) :=
    Walk.run remote.session catalog.bucket asset act calls none none session
  match walked.ending with
  | .failed fault => (.error fault, session)
  | .unfinished => (.error (.store scanUnfinished), session)
  | _ => (.ok walked.items, session)

/-- The partition ids of all keys of an asset, in the order of the listing, repeated ones included.
-/
def partitionIds {State : Type} (catalog : Catalog) (remote : Remote State) (calls : Nat)
    (name : String) (session : Session State) :
    Except Fault (List PartitionId) × Session State :=
  match catalog.assets.get? name with
  | none => (.error (.unknownAsset (.ofAsset name)), session)
  | some asset =>
      let (found, session) := catalog.scan remote calls asset session
      (found.map fun pairs => pairs.map Prod.snd, session)

/-- The partition ids that a request asks for. -/
def partitionIdsFor {State : Type} (catalog : Catalog) (remote : Remote State) (calls : Nat)
    (request : PartitionsRequest) (session : Session State) :
    Except Fault (List PartitionId) × Session State :=
  let (name, warnings) := request.assetName
  let session := session.warn warnings
  match name with
  | .error fault => (.error fault, session)
  | .ok name => catalog.partitionIds remote calls name session

/-- The batch of the only key of a partition. -/
def findPartition {State : Type} (catalog : Catalog) (remote : Remote State) (calls : Nat)
    (asset : Asset) (partition : String) (overrides : Overrides) (session : Session State) :
    Except Fault Descriptor × Session State :=
  let (found, session) := catalog.scan remote calls asset session
  match found with
  | .error fault => (.error fault, session)
  | .ok pairs =>
      match (pairs.filter fun pair => pair.2.text = partition).map Prod.fst with
      | [] => (.error (.noPartition asset.name partition), session)
      | [key] => (.ok (catalog.defaults.describe asset overrides key), session)
      | keys => (.error (.ambiguousPartition asset.name partition keys), session)

/-- All batches of an asset. -/
def batches (catalog : Catalog) (name : String) (overrides : Overrides) :
    Except Fault BatchStream :=
  match catalog.assets.get? name with
  | none => .error (.unknownAsset ⟨some name, none, overrides⟩)
  | some asset => .ok ⟨asset, overrides⟩

/-- The answer to a request: the batch of the partition it names, or all batches of the asset. -/
def answer {State : Type} (catalog : Catalog) (remote : Remote State) (calls : Nat)
    (request : BatchRequest) (session : Session State) :
    Except Fault BatchAnswer × Session State :=
  match request.asset with
  | none => (.error (.noAssetName request), session)
  | some name =>
      match catalog.assets.get? name with
      | none => (.error (.unknownAsset request), session)
      | some asset =>
          match request.partition.filter fun id => !id.isEmpty with
          | some id =>
              let (found, session) :=
                catalog.findPartition remote calls asset id request.overrides session
              (found.map .single, session)
          | none => (.ok (.stream ⟨asset, request.overrides⟩), session)

/--
Hand out batches of a stream while they are wanted, all of them if no number is given, and move the
cursor of the asset.  `act` makes an item of each descriptor when its turn comes.
-/
def drain {State Item : Type} (catalog : Catalog) (remote : Remote State) (calls : Nat)
    (stream : BatchStream) (act : Descriptor → Session State → Item × Session State)
    (wanted : Option Nat) (session : Session State) :
    Walked Item × Catalog × Session State :=
  let asset := stream.asset
  let describe := catalog.defaults.describe asset stream.overrides
  let start := (catalog.cursor? asset.name).getD .start
  let (walked, session) :=
    Walk.run remote.session catalog.bucket asset (fun key => act (describe key)) calls wanted
      start.token session
  (walked, catalog.setCursor asset.name walked.cursor, session)

end Catalog
end BucketCatalog
