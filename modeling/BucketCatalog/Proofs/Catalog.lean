import BucketCatalog.Catalog.Action
import BucketCatalog.Proofs.Asset
import BucketCatalog.Proofs.Table
import BucketCatalog.Proofs.Walk.Steady

/-!
# Catalogs in use

A catalog has a cursor for each of its assets and for nothing else, wherever the cursors are.  An
action moves at most one of them: that of the asset whose batches it hands out or that it starts
over with.  Everything that an action hands out is made from the keys of one walk over the asset.
-/

namespace BucketCatalog

namespace Settings

variable {settings : Settings} {assets : Table Asset} {name : String} {asset : Asset}

theorem named_of_validate (valid : settings.validate = .ok ()) :
    settings.bucket ≠ "" ∧ settings.scheme ≠ "" := by
  simp only [validate] at valid
  split at valid
  · contradiction
  · next bucket =>
      split at valid
      · contradiction
      · next scheme => exact ⟨by simpa using bucket, by simpa using scheme⟩

theorem validate_of_resolved (resolved : settings.resolveAssets = .ok assets) :
    settings.validate = .ok () := by
  cases valid : settings.validate with
  | error fault => simp [resolveAssets, valid, bind, Except.bind] at resolved
  | ok => rfl

/-- Every asset is what the settings of some asset of its name come to. -/
theorem exists_resolve (resolved : settings.resolveAssets = .ok assets)
    (registered : assets.get? name = some asset) :
    ∃ source, Asset.resolve name source settings = .ok asset := by
  have valid := validate_of_resolved resolved
  simp only [resolveAssets, valid, bind, Except.bind, pure, Except.pure] at resolved
  split at resolved
  · split at resolved
    · contradiction
    · next only only_resolved =>
        obtain rfl := Except.ok.inj resolved
        rw [Table.get?_insert, Table.get?_empty] at registered
        split at registered
        · next same =>
            obtain rfl := Option.some.inj registered
            rw [same]
            exact ⟨_, only_resolved⟩
        · contradiction
  · obtain ⟨source, -, asset_resolved⟩ :=
      Table.mem_of_traverse resolved (Table.mem_entries_iff.mpr registered)
    exact ⟨source, asset_resolved⟩

/-- Every asset is found under its own name. -/
theorem name_of_resolved (resolved : settings.resolveAssets = .ok assets)
    (registered : assets.get? name = some asset) : asset.name = name := by
  obtain ⟨source, asset_resolved⟩ := exists_resolve resolved registered
  exact (Asset.isResolved_of_resolve asset_resolved).name_eq

end Settings

namespace Catalog

/-- A catalog of settings, wherever its cursors are. -/
structure IsOf (catalog : Catalog) (settings : Settings) : Prop where
  /-- Its assets are those of the settings. -/
  resolved : settings.resolveAssets = .ok catalog.assets
  /-- Its batches have in common what the settings say. -/
  defaults : catalog.defaults = settings.batchDefaults
  /-- Each asset has a cursor, and nothing else does. -/
  registered : catalog.cursors.keys = catalog.assets.keys

variable {catalog : Catalog} {settings : Settings} {name : String} {asset : Asset}

theorem cursor?_setCursor (catalog : Catalog) (name other : String) (cursor : Cursor) :
    (catalog.setCursor name cursor).cursor? other =
      if other = name then some cursor else catalog.cursor? other :=
  Table.get?_insert catalog.cursors name other cursor

theorem isOf_ofSettings (made : ofSettings settings = .ok catalog) : catalog.IsOf settings := by
  simp only [ofSettings] at made
  split at made
  · contradiction
  · next assets resolved =>
      obtain rfl := Except.ok.inj made
      exact ⟨resolved, rfl, Table.keys_map _⟩

theorem IsOf.name_eq (of : catalog.IsOf settings) (found : catalog.assets.get? name = some asset) :
    asset.name = name :=
  Settings.name_of_resolved of.resolved found

theorem IsOf.hasCursor (of : catalog.IsOf settings)
    (found : catalog.assets.get? name = some asset) : catalog.cursors.contains name := by
  rw [Table.contains_iff_mem_keys, of.registered, ← Table.contains_iff_mem_keys, Table.contains,
    found]
  rfl

theorem IsOf.setCursor (of : catalog.IsOf settings) (held : catalog.cursors.contains name)
    (cursor : Cursor) : (catalog.setCursor name cursor).IsOf settings :=
  ⟨of.resolved, of.defaults, (Table.keys_insert held cursor).trans of.registered⟩

end Catalog

/-- What a walk that has to see everything results in. -/
def Walked.result {Item : Type} (walked : Walked Item) : Except Fault (List Item) :=
  match walked.ending with
  | .failed fault => .error fault
  | .unfinished => .error (.store Catalog.scanUnfinished)
  | _ => .ok walked.items

/-- The fault of a request for an asset that a catalog does not have. -/
def BatchRequest.unmet (request : BatchRequest) : Fault :=
  match request.asset with
  | none => .noAssetName request
  | some _ => .unknownAsset request

/-- The asset whose cursor an action may move. -/
def Action.moves? : Action → Option String
  | .batches name _ _ => some name
  | .objects name _ => some name
  | .reset name => some name
  | .answer request _ =>
      match request.partition.filter fun id => !id.isEmpty with
      | none => request.asset
      | some _ => none
  | _ => none

namespace Catalog

section Perform

variable {State : Type} {catalog : Catalog} {settings : Settings} {name : String} {asset : Asset}
  {request : BatchRequest}

theorem perform_batches (found : catalog.assets.get? name = some asset) (remote : Remote State)
    (calls : Nat) (overrides : Overrides) (wanted : Option Nat) (session : Session State) :
    catalog.perform remote calls (.batches name overrides wanted) session =
      catalog.take remote calls ⟨asset, overrides⟩ wanted session := by
  simp only [perform, batches, found]

theorem perform_objects (found : catalog.assets.get? name = some asset) (remote : Remote State)
    (calls : Nat) (wanted : Option Nat) (session : Session State) :
    catalog.perform remote calls (.objects name wanted) session =
      (.objects (catalog.drain remote calls ⟨asset, .none⟩ remote.session.fetch wanted session).1,
        (catalog.drain remote calls ⟨asset, .none⟩ remote.session.fetch wanted session).2) := by
  simp only [perform, batches, found]

/-- A key with its id, as a scan hands it out. -/
def identified (asset : Asset) (key : String) (session : Session State) :
    (String × PartitionId) × Session State :=
  ((key, (session.identify asset key).1), (session.identify asset key).2)

theorem scan_eq (catalog : Catalog) (remote : Remote State) (calls : Nat) (asset : Asset)
    (session : Session State) :
    catalog.scan remote calls asset session =
      ((Walk.run remote.session catalog.bucket asset (identified asset) calls none none
          session).1.result,
        (Walk.run remote.session catalog.bucket asset (identified asset) calls none none
          session).2) := by
  cases run_eq : Walk.run remote.session catalog.bucket asset (identified asset) calls none none
      session with
  | mk walked after =>
      obtain ⟨items, ending, cursor⟩ := walked
      rw [scan]
      -- The act of a scan is `identified asset` only once that is unfolded.
      erw [run_eq]
      cases ending <;> rfl

/-- A request without a partition is answered with the batches of its asset. -/
theorem perform_answer_whole (asked : request.asset = some name)
    (found : catalog.assets.get? name = some asset)
    (whole : (request.partition.filter fun id => !id.isEmpty) = none) (remote : Remote State)
    (calls : Nat) (wanted : Option Nat) (session : Session State) :
    catalog.perform remote calls (.answer request wanted) session =
      catalog.take remote calls ⟨asset, request.overrides⟩ wanted session := by
  simp only [perform, answer, asked, found, whole]

/-- A request with a partition is answered with the batch that is found for it. -/
theorem perform_answer_partition {id : String} (asked : request.asset = some name)
    (found : catalog.assets.get? name = some asset)
    (partition : (request.partition.filter fun id => !id.isEmpty) = some id)
    (remote : Remote State) (calls : Nat) (wanted : Option Nat) (session : Session State) :
    catalog.perform remote calls (.answer request wanted) session =
      (.ofResult .single
          (catalog.findPartition remote calls asset id request.overrides session).1,
        catalog, (catalog.findPartition remote calls asset id request.overrides session).2) := by
  simp only [perform, answer, asked, found, partition]
  cases catalog.findPartition remote calls asset id request.overrides session with
  | mk result after => cases result <;> rfl

/-- A request for an asset that the catalog does not have is refused. -/
theorem perform_answer_unknown
    (unknown : ∀ name, request.asset = some name → catalog.assets.get? name = none)
    (remote : Remote State) (calls : Nat) (wanted : Option Nat) (session : Session State) :
    catalog.perform remote calls (.answer request wanted) session =
      (.refused request.unmet, catalog, session) := by
  simp only [perform, answer, BatchRequest.unmet]
  cases asked : request.asset with
  | none => rfl
  | some name => simp only [unknown name asked]

/-- A request is refused, or answered with the batch of a partition or with a stream. -/
theorem perform_answer_cases (catalog : Catalog) (remote : Remote State) (calls : Nat)
    (request : BatchRequest) (wanted : Option Nat) (session : Session State) :
    (∀ name, request.asset = some name → catalog.assets.get? name = none) ∧
        catalog.perform remote calls (.answer request wanted) session =
          (.refused request.unmet, catalog, session) ∨
      ∃ name asset, request.asset = some name ∧ catalog.assets.get? name = some asset ∧
        ((∃ id, (request.partition.filter fun id => !id.isEmpty) = some id ∧
            catalog.perform remote calls (.answer request wanted) session =
              (.ofResult .single
                  (catalog.findPartition remote calls asset id request.overrides session).1,
                catalog,
                (catalog.findPartition remote calls asset id request.overrides session).2)) ∨
          (request.partition.filter fun id => !id.isEmpty) = none ∧
            catalog.perform remote calls (.answer request wanted) session =
              catalog.take remote calls ⟨asset, request.overrides⟩ wanted session) := by
  by_cases unknown : ∀ name, request.asset = some name → catalog.assets.get? name = none
  · exact .inl ⟨unknown, perform_answer_unknown unknown remote calls wanted session⟩
  · obtain ⟨name, asked, known⟩ : ∃ name, request.asset = some name ∧
        catalog.assets.get? name ≠ none := by
      simpa using unknown
    obtain ⟨asset, found⟩ := Option.ne_none_iff_exists'.mp known
    refine .inr ⟨name, asset, asked, found, ?_⟩
    cases partition : request.partition.filter fun id => !id.isEmpty with
    | some id =>
        exact .inl ⟨id, rfl,
          perform_answer_partition asked found partition remote calls wanted session⟩
    | none =>
        exact .inr ⟨rfl, perform_answer_whole asked found partition remote calls wanted session⟩

theorem IsOf.drain_moves {Item : Type} (of : catalog.IsOf settings)
    (found : catalog.assets.get? name = some asset) (remote : Remote State) (calls : Nat)
    (overrides : Overrides) (act : Descriptor → Session State → Item × Session State)
    (wanted : Option Nat) (session : Session State) :
    ∃ cursor, (catalog.drain remote calls ⟨asset, overrides⟩ act wanted session).2.1 =
      catalog.setCursor name cursor := by
  rw [← of.name_eq found]
  exact ⟨_, rfl⟩

theorem IsOf.take_moves (of : catalog.IsOf settings) (found : catalog.assets.get? name = some asset)
    (remote : Remote State) (calls : Nat) (overrides : Overrides) (wanted : Option Nat)
    (session : Session State) :
    ∃ cursor, (catalog.take remote calls ⟨asset, overrides⟩ wanted session).2.1 =
      catalog.setCursor name cursor :=
  of.drain_moves found remote calls overrides (fun descriptor session => (descriptor, session))
    wanted session

/-- An action leaves the catalog as it is, or moves the cursor of its asset. -/
theorem IsOf.perform_cases (of : catalog.IsOf settings) (remote : Remote State) (calls : Nat)
    (action : Action) (session : Session State) :
    (catalog.perform remote calls action session).2.1 = catalog ∨
      ∃ name cursor, action.moves? = some name ∧ catalog.cursors.contains name ∧
        (catalog.perform remote calls action session).2.1 = catalog.setCursor name cursor := by
  cases action with
  | partitionIds name => exact .inl rfl
  | partitionIdsFor request => exact .inl rfl
  | fetch descriptor => exact .inl rfl
  | reset name =>
      simp only [perform, reset]
      by_cases held : catalog.cursors.contains name
      · exact .inr ⟨name, .start, rfl, held, by rw [if_pos held]⟩
      · exact .inl (by rw [if_neg held])
  | batches name overrides wanted =>
      cases found : catalog.assets.get? name with
      | none => exact .inl (by simp only [perform, batches, found])
      | some asset =>
          rw [perform_batches found]
          obtain ⟨cursor, moved⟩ := of.take_moves found remote calls overrides wanted session
          exact .inr ⟨name, cursor, rfl, of.hasCursor found, moved⟩
  | objects name wanted =>
      cases found : catalog.assets.get? name with
      | none => exact .inl (by simp only [perform, batches, found])
      | some asset =>
          rw [perform_objects found]
          obtain ⟨cursor, moved⟩ :=
            of.drain_moves found remote calls .none remote.session.fetch wanted session
          exact .inr ⟨name, cursor, rfl, of.hasCursor found, moved⟩
  | answer request wanted =>
      obtain ⟨-, refused⟩ | ⟨name, asset, asked, found, ⟨id, -, answered⟩ | ⟨whole, answered⟩⟩ :=
        catalog.perform_answer_cases remote calls request wanted session
      · exact .inl (by rw [refused])
      · exact .inl (by rw [answered])
      · rw [answered]
        obtain ⟨cursor, moved⟩ := of.take_moves found remote calls request.overrides wanted session
        exact .inr ⟨name, cursor, by simp [Action.moves?, whole, asked], of.hasCursor found, moved⟩

/-- Whatever is asked of a catalog, it stays one of its settings. -/
theorem IsOf.perform (of : catalog.IsOf settings) (remote : Remote State) (calls : Nat)
    (action : Action) (session : Session State) :
    (catalog.perform remote calls action session).2.1.IsOf settings := by
  obtain same | ⟨name, cursor, -, held, moved⟩ := of.perform_cases remote calls action session
  · rwa [same]
  · rw [moved]
    exact of.setCursor held cursor

end Perform

section Steady

variable {State Item : Type} {remote : Remote State} {settled : State → Prop}

/-- Where the next stream of an asset starts. -/
def position (catalog : Catalog) (asset : Asset) : Cursor :=
  (catalog.cursor? asset.name).getD .start

/-- The keys that a walk over an asset hands out, over a store as it is. -/
def keyWalk (catalog : Catalog) (remote : Remote State) (store : State) (calls : Nat)
    (asset : Asset) (wanted : Option Nat) (cursor : Cursor) : Walked String :=
  (Walk.run (remote.frozen store) catalog.bucket asset Walk.key calls wanted cursor.token ()).1

/-- What is handed out of a stream over a steady store is made from the keys of one walk, and the
cursor of the asset is where that walk comes to rest. -/
theorem drain_of_steady (steady : remote.ListsSteadily settled) (catalog : Catalog) (calls : Nat)
    (stream : BatchStream) {act : Descriptor → Session State → Item × Session State}
    {make : Descriptor → Item}
    (acts : ∀ descriptor session, settled session.store →
      (act descriptor session).1 = make descriptor ∧ settled (act descriptor session).2.store)
    (wanted : Option Nat) {session : Session State} {store : State}
    (here : settled session.store) (there : settled store) :
    (catalog.drain remote calls stream act wanted session).1 =
        (catalog.keyWalk remote store calls stream.asset wanted
          (catalog.position stream.asset)).map
            (make ∘ catalog.defaults.describe stream.asset stream.overrides) ∧
      (catalog.drain remote calls stream act wanted session).2.1 =
        catalog.setCursor stream.asset.name
          (catalog.keyWalk remote store calls stream.asset wanted
            (catalog.position stream.asset)).cursor ∧
      settled (catalog.drain remote calls stream act wanted session).2.2.store := by
  let describe := catalog.defaults.describe stream.asset stream.overrides
  have acts_on_key : ∀ key session, settled session.store ∧ True →
      (act (describe key) session).1 = (make ∘ describe) key ∧
        settled (act (describe key) session).2.store ∧ True := by
    intro key session settled_session
    obtain ⟨made, kept⟩ := acts (describe key) session settled_session.1
    exact ⟨made, kept, trivial⟩
  obtain ⟨same_walk, settled_after⟩ :=
    Walk.run_session_of_steady steady catalog.bucket stream.asset (fun _ => True) acts_on_key calls
      wanted (catalog.position stream.asset).token ⟨here, trivial⟩ there
  exact ⟨same_walk, congrArg (catalog.setCursor stream.asset.name)
    (congrArg Walked.cursor same_walk), settled_after⟩

theorem take_of_steady (steady : remote.ListsSteadily settled) (catalog : Catalog) (calls : Nat)
    (stream : BatchStream) (wanted : Option Nat) {session : Session State} {store : State}
    (here : settled session.store) (there : settled store) :
    (catalog.take remote calls stream wanted session).1 =
        .stream ((catalog.keyWalk remote store calls stream.asset wanted
          (catalog.position stream.asset)).map
            (catalog.defaults.describe stream.asset stream.overrides)) ∧
      (catalog.take remote calls stream wanted session).2.1 =
        catalog.setCursor stream.asset.name
          (catalog.keyWalk remote store calls stream.asset wanted
            (catalog.position stream.asset)).cursor ∧
      settled (catalog.take remote calls stream wanted session).2.2.store := by
  have acts : ∀ (descriptor : Descriptor) (session : Session State), settled session.store →
      descriptor = id descriptor ∧ settled session.store :=
    fun _ _ settled_session => ⟨rfl, settled_session⟩
  obtain ⟨handed, moved, kept⟩ :=
    @drain_of_steady State Descriptor remote settled steady catalog calls stream
      (fun descriptor session => (descriptor, session)) id acts wanted session store here there
  exact ⟨congrArg Outcome.stream handed, moved, kept⟩

theorem settled_scan (steady : remote.ListsSteadily settled) (catalog : Catalog) (calls : Nat)
    (asset : Asset) {session : Session State} (here : settled session.store) :
    settled (catalog.scan remote calls asset session).2.store := by
  rw [scan_eq]
  exact (Walk.settled_run (steady.session fun _ => True) catalog.bucket asset
    (fun key session settled_session => settled_session) calls none none ⟨here, trivial⟩).1

theorem settled_findPartition (steady : remote.ListsSteadily settled) (catalog : Catalog)
    (calls : Nat) (asset : Asset) (partition : String) (overrides : Overrides)
    {session : Session State} (here : settled session.store) :
    settled (catalog.findPartition remote calls asset partition overrides session).2.store := by
  have scanned := settled_scan steady catalog calls asset here
  simp only [findPartition]
  cases scanned_eq : catalog.scan remote calls asset session with
  | mk result after =>
      rw [scanned_eq] at scanned
      cases result with
      | error fault => exact scanned
      | ok pairs =>
          dsimp only
          split <;> exact scanned

theorem settled_partitionIds (steady : remote.ListsSteadily settled) (catalog : Catalog)
    (calls : Nat) (name : String) {session : Session State} (here : settled session.store) :
    settled (catalog.partitionIds remote calls name session).2.store := by
  simp only [partitionIds]
  cases catalog.assets.get? name with
  | none => exact here
  | some asset => exact settled_scan steady catalog calls asset here

end Steady

section Retrieving

variable {State : Type} {remote : Remote State} {settled : State → Prop}

theorem fetch_of_steady (steady : remote.IsSteady settled) (descriptor : Descriptor)
    {state other : State} (here : settled state) (there : settled other) :
    (remote.fetch descriptor state).1 = (remote.fetch descriptor other).1 ∧
      settled (remote.fetch descriptor state).2 := by
  simp only [Remote.fetch]
  cases descriptor.locate with
  | error fault => exact ⟨rfl, here⟩
  | ok locator =>
      have same := steady.retrieve locator.bucket locator.key state other here there
      have kept := steady.retrieved locator.bucket locator.key state here
      cases retrieved : remote.retrieve locator.bucket locator.key state with
      | mk answer after =>
          cases retrieved_other : remote.retrieve locator.bucket locator.key other with
          | mk other_answer other_after =>
              rw [retrieved, retrieved_other] at same
              rw [retrieved] at kept
              obtain rfl : answer = other_answer := same
              simp only [retrieved, retrieved_other]
              cases answer with
              | error failure => exact ⟨rfl, kept⟩
              | ok object => exact ⟨rfl, kept⟩

/-- No action unsettles the store. -/
theorem settled_perform (steady : remote.IsSteady settled) (catalog : Catalog) (calls : Nat)
    (action : Action) {session : Session State} (here : settled session.store) :
    settled (catalog.perform remote calls action session).2.2.store := by
  have lists := steady.toListsSteadily
  have taken : ∀ stream wanted,
      settled (catalog.take remote calls stream wanted session).2.2.store := by
    intro stream wanted
    exact (take_of_steady lists catalog calls stream wanted here here).2.2
  have fetched : ∀ descriptor (other : Session State), settled other.store →
      (remote.session.fetch descriptor other).1 = (remote.session.fetch descriptor session).1 ∧
        settled (remote.session.fetch descriptor other).2.store :=
    fun descriptor other there => fetch_of_steady steady.session descriptor there here
  cases action with
  | partitionIds name => exact settled_partitionIds lists catalog calls name here
  | partitionIdsFor request =>
      simp only [perform, partitionIdsFor]
      cases request.assetName with
      | mk name warnings =>
          cases name with
          | error fault => exact here
          | ok name => exact settled_partitionIds lists catalog calls name here
  | fetch descriptor => exact (fetched descriptor session here).2
  | reset name => exact here
  | batches name overrides wanted =>
      cases found : catalog.assets.get? name with
      | none => simpa only [perform, batches, found] using here
      | some asset =>
          rw [perform_batches found]
          exact taken _ _
  | objects name wanted =>
      cases found : catalog.assets.get? name with
      | none => simpa only [perform, batches, found] using here
      | some asset =>
          rw [perform_objects found]
          exact (drain_of_steady lists catalog calls ⟨asset, .none⟩ fetched wanted here here).2.2
  | answer request wanted =>
      obtain ⟨-, refused⟩ | ⟨name, asset, -, -, ⟨id, -, answered⟩ | ⟨-, answered⟩⟩ :=
        catalog.perform_answer_cases remote calls request wanted session
      · rw [refused]
        exact here
      · rw [answered]
        exact settled_findPartition lists catalog calls asset id request.overrides here
      · rw [answered]
        exact taken _ _

end Retrieving

end Catalog

/-- Settings of two assets, one of all keys and one of those that start with a `d`. -/
def paired : Settings :=
  { Settings.ofBucket "b" with
    assets := .ofList
      [("all", AssetSettings.ofPrefix ""),
        ("days", { AssetSettings.ofPrefix "d" with maxKeys := some 2 })] }

/-- The catalog of the two assets. -/
def pair : Catalog where
  name := "default"
  defaults := paired.batchDefaults
  assets := .ofList [("all", everything "all" "" 1000), ("days", everything "days" "d" 2)]
  cursors := .ofList [("all", .start), ("days", .start)]

theorem ofSettings_paired : Catalog.ofSettings paired = .ok pair := by
  rfl

/-- A store that lists one key twice. -/
def doubled : Script where
  pages :=
    [(none, .ok ⟨some [⟨"d1", 1⟩, ⟨"d1", 1⟩], none, true, some "d1"⟩),
      (some "d1", .ok ⟨some [⟨"d2", 1⟩], none, false, none⟩)]
  objects := []

/-- A session with the store, at the beginning of time. -/
def doubledSession : Session Unit :=
  .ofStore () (.steady ⟨0⟩ 0)

end BucketCatalog
