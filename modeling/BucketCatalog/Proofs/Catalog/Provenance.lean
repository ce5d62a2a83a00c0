import BucketCatalog.Proofs.Catalog.Interference
import BucketCatalog.Proofs.Walk.Draining
import Mathlib.Logic.Relation

/-!
# Where the requests of a catalog come from

Whatever a store answers and whatever is asked of a catalog and its copies, a listing request is
made for an asset of the catalog, and its token was brought by a page of the same listing that was
read before.  A token is kept in a cursor between two walks, so the invariant is about the request
that the next stream of an asset starts with: it has provenance in the record of all calls so far.
A call only adds to that record, hence what had provenance keeps it.
-/

namespace BucketCatalog

open Listing

/-- A request for the page after the one of an exchange, in the same listing. -/
structure Listing.Request.GoesOnFrom (request : Request) (exchange : Exchange) : Prop where
  /-- The keys start with the same text. -/
  keyPrefix : exchange.request.keyPrefix = request.keyPrefix
  /-- They are rolled up on the same delimiter. -/
  delimiter : exchange.request.delimiter = request.delimiter
  /-- The pages are of the same size. -/
  maxKeys : exchange.request.maxKeys = request.maxKeys
  /-- The page says that there is more, and brings the token of the request. -/
  brings : ∃ page, exchange.answer = .ok page ∧ page.isTruncated = true ∧
    page.nextToken = request.token

/-- A request that was made for an asset of a catalog, with a token that the store gave out. -/
structure Listing.Request.HasProvenance (settings : Settings) (assets : Table Asset)
    (earlier : List Exchange) (request : Request) : Prop where
  /-- It is about the bucket of the settings. -/
  bucket : request.bucket = settings.bucket
  /-- It lists what a registered asset lists. -/
  listing : ∃ name asset, assets.get? name = some asset ∧ request.keyPrefix = asset.keyPrefix ∧
    request.delimiter = asset.delimiter ∧ request.maxKeys = asset.maxKeys
  /-- It rolls up on something. -/
  delimiter : request.delimiter ≠ ""
  /-- Its pages have room for a key. -/
  fewest : 1 ≤ request.maxKeys
  /-- They are not larger than stores accept. -/
  most : request.maxKeys ≤ 1000
  /-- Its token, if it has one, is from an earlier page of the same listing. -/
  source : request.token = none ∨ ∃ exchange ∈ earlier, request.GoesOnFrom exchange

/-- One more call in a record, whose request has provenance in what was recorded before. -/
inductive GrowsByOne (settings : Settings) (assets : Table Asset) :
    List Exchange → List Exchange → Prop where
  /-- The call comes last. -/
  | listed {record : List Exchange} {exchange : Exchange}
      (provenance : exchange.request.HasProvenance settings assets record) :
      GrowsByOne settings assets record (record ++ [exchange])

/-- A record that grows by calls whose requests have provenance. -/
def Grows (settings : Settings) (assets : Table Asset) : List Exchange → List Exchange → Prop :=
  Relation.ReflTransGen (GrowsByOne settings assets)

/-- A store whose listing calls can be read off its state. -/
structure Remote.Records {State : Type} (remote : Remote State) (record : State → List Exchange) :
    Prop where
  /-- A listing is written down with its answer. -/
  list : ∀ request state, record (remote.list request state).2 =
    record state ++ [⟨request, (remote.list request state).1⟩]
  /-- A retrieval is not. -/
  retrieve : ∀ bucket key state, record (remote.retrieve bucket key state).2 = record state

theorem Remote.records_transcribed {State : Type} (remote : Remote State) :
    remote.transcribed.Records Transcribed.exchanges where
  list := fun _ _ => rfl
  retrieve := fun _ _ _ => rfl

theorem Remote.Records.session {State : Type} {remote : Remote State}
    {record : State → List Exchange} (records : remote.Records record) :
    remote.session.Records fun session => record session.store where
  list := fun request session => records.list request session.store
  retrieve := fun bucket key session => records.retrieve bucket key session.store

variable {settings : Settings} {assets : Table Asset} {asset : Asset} {name bucket : String}
  {before after : List Exchange}

theorem Grows.subset (grows : Grows settings assets before after) : before ⊆ after := by
  induction grows with
  | refl => exact List.Subset.refl before
  | tail _ adds ih =>
      cases adds with
      | listed => exact List.subset_append_of_subset_left _ ih

/-- In a record that grew from nothing, each request has provenance in the calls before it. -/
theorem Grows.hasProvenance (grows : Grows settings assets [] after) {earlier later : List Exchange}
    {exchange : Exchange} (split : after = earlier ++ exchange :: later) :
    exchange.request.HasProvenance settings assets earlier := by
  induction grows generalizing later with
  | refl => simp at split
  | tail _ adds ih =>
      cases adds with
      | listed provenance =>
          -- The call of the split is the one that was added, or one of those before it.
          rcases List.eq_nil_or_concat later with rfl | ⟨others, last, rfl⟩
          · obtain ⟨rfl, same⟩ := List.append_inj' split rfl
            obtain rfl := List.singleton_inj.mp same
            exact provenance
          · rw [List.concat_eq_append, ← List.cons_append, ← List.append_assoc] at split
            exact ih (List.append_inj' split rfl).1

namespace Listing.Request.HasProvenance

variable {request : Request} {token other : Option String}

theorem grows (provenance : request.HasProvenance settings assets before)
    (grows : Grows settings assets before after) :
    request.HasProvenance settings assets after where
  bucket := provenance.bucket
  listing := provenance.listing
  delimiter := provenance.delimiter
  fewest := provenance.fewest
  most := provenance.most
  source := provenance.source.imp_right fun ⟨exchange, member, goes_on⟩ =>
    ⟨exchange, grows.subset member, goes_on⟩

/-- Another token leaves the listing as it is. -/
theorem withToken
    (provenance : (asset.request bucket token).HasProvenance settings assets before)
    (source : other = none ∨ ∃ exchange ∈ before,
      (asset.request bucket other).GoesOnFrom exchange) :
    (asset.request bucket other).HasProvenance settings assets before where
  bucket := provenance.bucket
  listing := provenance.listing
  delimiter := provenance.delimiter
  fewest := provenance.fewest
  most := provenance.most
  source := source

end Listing.Request.HasProvenance

namespace Walk

variable {State Item : Type} {remote : Remote State} {record : State → List Exchange}
  {act : String → State → Item × State}

theorem record_handOut (acts : ∀ key state, record (act key state).2 = record state)
    (wanted : Option Nat) (keys : List String) (state : State) :
    record (handOut act wanted keys state).2.2 = record state := by
  induction keys generalizing wanted state with
  | nil => rw [handOut]
  | cons first keys ih =>
      by_cases none_wanted : wanted = some 0
      · rw [none_wanted, handOut]
      · rw [handOut]
        · exact (ih _ _).trans (acts first state)
        · exact none_wanted

/-- Reading a page adds its call to the record, and the token that it brings is that of a page with
more after it. -/
theorem record_readPage (records : remote.Records record) (bucket : String) (asset : Asset)
    (token : Option String) (state : State) :
    ∃ answer,
      record (asset.readPage remote bucket token state).2 =
          record state ++ [⟨asset.request bucket token, answer⟩] ∧
        ∀ kept later, (asset.readPage remote bucket token state).1 = .ok kept →
          kept.nextToken = some later →
          ∃ page, answer = .ok page ∧ page.isTruncated = true ∧ page.nextToken = some later := by
  have written := records.list (asset.request bucket token) state
  cases answered : remote.list (asset.request bucket token) state with
  | mk answer next =>
      rw [answered] at written
      refine ⟨answer, ?_⟩
      simp only [Asset.readPage, answered]
      cases answer with
      | error failure => exact ⟨written, by simp⟩
      | ok page =>
          refine ⟨written, fun kept later keeps brings => ⟨page, rfl, ?_⟩⟩
          obtain ⟨fault, -, refuses⟩ | ⟨-, ends⟩ | ⟨token, turns, goes_on⟩ := asset.keep_cases page
          · simp [refuses] at keeps
          · obtain rfl := Except.ok.inj (ends.symm.trans keeps)
            contradiction
          · obtain rfl := Except.ok.inj (goes_on.symm.trans keeps)
            obtain rfl := Option.some.inj brings
            exact ⟨turns.more, turns.brings⟩

/-- A walk whose first request has provenance only makes calls that have, and so has the request
with which the next walk goes on. -/
theorem grows_run (records : remote.Records record)
    (acts : ∀ key state, record (act key state).2 = record state) (calls : Nat)
    (wanted : Option Nat) {token : Option String} {state : State}
    (provenance : (asset.request bucket token).HasProvenance settings assets (record state)) :
    Grows settings assets (record state)
        (record (run remote bucket asset act calls wanted token state).2) ∧
      (asset.request bucket
          (run remote bucket asset act calls wanted token state).1.cursor.token).HasProvenance
        settings assets (record (run remote bucket asset act calls wanted token state).2) := by
  induction calls generalizing wanted token state with
  | zero =>
      by_cases none_wanted : wanted = some 0
      · rw [none_wanted, run_zero]
        exact ⟨.refl, provenance⟩
      · rw [run]
        · exact ⟨.refl, provenance⟩
        · exact none_wanted
  | succ calls ih =>
      by_cases none_wanted : wanted = some 0
      · rw [none_wanted, run_zero]
        exact ⟨.refl, provenance⟩
      obtain ⟨answer, written, brought⟩ := record_readPage records bucket asset token state
      simp only [run]
      cases read : asset.readPage remote bucket token state with
      | mk result next =>
          rw [read] at written brought
          have grows : Grows settings assets (record state) (record next) := by
            rw [written]
            exact .single (.listed provenance)
          cases result with
          | error fault => exact ⟨grows, provenance.grows grows⟩
          | ok page =>
              have kept := record_handOut acts wanted page.keys next
              cases handed : handOut act wanted page.keys next with
              | mk items rest =>
                  obtain ⟨left, final⟩ := rest
                  rw [handed] at kept
                  rw [← kept] at grows written
                  simp only [handed]
                  rcases left with _ | _ | count
                  case some.zero => exact ⟨grows, provenance.grows grows⟩
                  all_goals
                    cases brings : page.nextToken with
                    | none => exact ⟨grows, (provenance.grows grows).withToken (.inl rfl)⟩
                    | some later =>
                        have member : ⟨asset.request bucket token, answer⟩ ∈ record final := by
                          rw [written]
                          exact List.mem_concat_self
                        have goes_on : (asset.request bucket (some later)).GoesOnFrom
                            ⟨asset.request bucket token, answer⟩ :=
                          ⟨rfl, rfl, rfl, brought page later rfl brings⟩
                        obtain ⟨more, ends⟩ := ih _
                          ((provenance.grows grows).withToken (.inr ⟨_, member, goes_on⟩))
                        exact ⟨grows.trans more, ends⟩

end Walk

namespace Catalog

/-- A catalog of settings that goes on with each of its assets by a request with provenance. -/
structure IsSourced (catalog : Catalog) (settings : Settings) (record : List Exchange) : Prop where
  /-- It is a catalog of the settings. -/
  of : catalog.IsOf settings
  /-- The next stream of an asset starts with such a request. -/
  provenance : ∀ name asset cursor, catalog.assets.get? name = some asset →
    catalog.cursor? name = some cursor →
    (asset.request catalog.bucket cursor.token).HasProvenance settings catalog.assets record

variable {State Item : Type} {remote : Remote State} {record : State → List Exchange}
  {catalog : Catalog} {session : Session State} {stream : BatchStream}

/-- The first request of an asset has provenance, whatever was asked before. -/
theorem IsOf.hasProvenance_start (of : catalog.IsOf settings)
    (registered : catalog.assets.get? name = some asset) :
    (asset.request catalog.bucket none).HasProvenance settings catalog.assets before := by
  obtain ⟨source, asset_resolved⟩ := Settings.exists_resolve of.resolved registered
  obtain ⟨-, delimited, some_keys, not_more, -, -⟩ := Asset.isResolved_of_resolve asset_resolved
  have same_bucket : catalog.bucket = settings.bucket := by
    rw [bucket, of.defaults]
    rfl
  have fewest : 1 ≤ asset.maxKeys := by
    rw [UInt32.le_iff_toNat_le]
    exact Nat.pos_of_ne_zero (UInt32.toNat_inj.not.mpr some_keys)
  exact ⟨same_bucket, ⟨name, asset, registered, rfl, rfl, rfl⟩, delimited, fewest, not_more,
    .inl rfl⟩

/-- A new catalog goes on from no tokens. -/
theorem isSourced_ofSettings (made : ofSettings settings = .ok catalog) :
    catalog.IsSourced settings before where
  of := isOf_ofSettings made
  provenance := by
    intro name asset cursor registered held
    have starts : (asset.request catalog.bucket none).HasProvenance settings catalog.assets before :=
      (isOf_ofSettings made).hasProvenance_start registered
    simp only [ofSettings] at made
    split at made
    · contradiction
    · next assets resolved =>
        obtain rfl := Except.ok.inj made
        obtain ⟨source, -, rfl⟩ : ∃ source, (name, source) ∈ assets.entries ∧ .start = cursor := by
          simpa [Table.map] using Table.mem_entries_iff.mpr held
        exact starts

namespace IsSourced

theorem grows (sourced : catalog.IsSourced settings before)
    (grows : Grows settings catalog.assets before after) : catalog.IsSourced settings after where
  of := sourced.of
  provenance := fun name asset cursor registered held =>
    (sourced.provenance name asset cursor registered held).grows grows

theorem setCursor {cursor : Cursor} (sourced : catalog.IsSourced settings before)
    (registered : catalog.assets.get? name = some asset)
    (provenance : (asset.request catalog.bucket cursor.token).HasProvenance settings
      catalog.assets before) : (catalog.setCursor name cursor).IsSourced settings before where
  of := sourced.of.setCursor (sourced.of.hasCursor registered) cursor
  provenance := by
    intro other other_asset other_cursor other_registered held
    rw [cursor?_setCursor] at held
    split at held
    · next same =>
        obtain rfl := Option.some.inj held
        rw [same] at other_registered
        obtain rfl := Option.some.inj (registered.symm.trans other_registered)
        exact provenance
    · exact sourced.provenance other other_asset other_cursor other_registered held

/-- The request that a stream starts with has provenance. -/
theorem position (sourced : catalog.IsSourced settings before)
    (registered : catalog.assets.get? name = some asset) :
    (asset.request catalog.bucket (catalog.position asset).token).HasProvenance settings
      catalog.assets before := by
  rw [Catalog.position, sourced.of.name_eq registered]
  cases held : catalog.cursor? name with
  | none => exact sourced.of.hasProvenance_start registered
  | some cursor => exact sourced.provenance name asset cursor registered held

theorem drain (sourced : catalog.IsSourced settings (record session.store))
    (records : remote.Records record) (registered : catalog.assets.get? name = some stream.asset)
    {act : Descriptor → Session State → Item × Session State}
    (acts : ∀ descriptor session,
      record (act descriptor session).2.store = record session.store)
    (calls : Nat) (wanted : Option Nat) :
    Grows settings catalog.assets (record session.store)
        (record (catalog.drain remote calls stream act wanted session).2.2.store) ∧
      (catalog.drain remote calls stream act wanted session).2.1.IsSourced settings
        (record (catalog.drain remote calls stream act wanted session).2.2.store) := by
  have under_name : catalog.assets.get? stream.asset.name = some stream.asset := by
    rwa [sourced.of.name_eq registered]
  obtain ⟨grows, goes_on⟩ :=
    Walk.grows_run records.session
      (fun key => acts (catalog.defaults.describe stream.asset stream.overrides key)) calls wanted
      (sourced.position registered)
  exact ⟨grows, (sourced.grows grows).setCursor under_name goes_on⟩

theorem take (sourced : catalog.IsSourced settings (record session.store))
    (records : remote.Records record) (registered : catalog.assets.get? name = some stream.asset)
    (calls : Nat) (wanted : Option Nat) :
    Grows settings catalog.assets (record session.store)
        (record (catalog.take remote calls stream wanted session).2.2.store) ∧
      (catalog.take remote calls stream wanted session).2.1.IsSourced settings
        (record (catalog.take remote calls stream wanted session).2.2.store) := by
  have acts : ∀ (descriptor : Descriptor) (session : Session State),
      record (descriptor, session).2.store = record session.store := fun _ _ => rfl
  exact sourced.drain records registered acts calls wanted

end IsSourced

/-- A scan starts from the beginning, and the cursors have no part in it. -/
theorem IsOf.grows_scan (of : catalog.IsOf settings) (records : remote.Records record)
    (registered : catalog.assets.get? name = some asset) (calls : Nat)
    (session : Session State) :
    Grows settings catalog.assets (record session.store)
      (record (catalog.scan remote calls asset session).2.store) := by
  have acts : ∀ key session,
      record (identified asset key session).2.store = record session.store := fun _ _ => rfl
  rw [scan_eq]
  exact (Walk.grows_run records.session acts calls none (of.hasProvenance_start registered)).1

theorem IsOf.grows_findPartition (of : catalog.IsOf settings) (records : remote.Records record)
    (registered : catalog.assets.get? name = some asset) (calls : Nat) (partition : String)
    (overrides : Overrides) (session : Session State) :
    Grows settings catalog.assets (record session.store)
      (record (catalog.findPartition remote calls asset partition overrides session).2.store) := by
  have grows := of.grows_scan records registered calls session
  simp only [findPartition]
  cases scanned : catalog.scan remote calls asset session with
  | mk result after =>
      rw [scanned] at grows
      cases result with
      | error fault => exact grows
      | ok pairs =>
          dsimp only
          split <;> exact grows

theorem record_fetch (records : remote.Records record) (descriptor : Descriptor) (state : State) :
    record (remote.fetch descriptor state).2 = record state := by
  rw [Remote.fetch]
  cases descriptor.locate with
  | error fault => rfl
  | ok locator =>
      have same := records.retrieve locator.bucket locator.key state
      cases retrieved : remote.retrieve locator.bucket locator.key state with
      | mk answer next =>
          rw [retrieved] at same
          cases answer <;> simpa only [retrieved] using same

/-- An action only makes calls with provenance, and leaves the catalog to go on by such calls. -/
theorem IsSourced.perform (sourced : catalog.IsSourced settings (record session.store))
    (records : remote.Records record) (calls : Nat) (action : Action) :
    Grows settings catalog.assets (record session.store)
        (record (catalog.perform remote calls action session).2.2.store) ∧
      (catalog.perform remote calls action session).2.1.IsSourced settings
        (record (catalog.perform remote calls action session).2.2.store) := by
  have of := sourced.of
  have partitions : ∀ (name : String) (session : Session State),
      Grows settings catalog.assets (record session.store)
        (record (catalog.partitionIds remote calls name session).2.store) := by
    intro name session
    simp only [partitionIds]
    cases registered : catalog.assets.get? name with
    | none => exact .refl
    | some asset => exact of.grows_scan records registered calls session
  have fetched : ∀ descriptor session,
      record (remote.session.fetch descriptor session).2.store = record session.store :=
    record_fetch records.session
  cases action with
  | partitionIds name => exact ⟨partitions name session, sourced.grows (partitions name session)⟩
  | partitionIdsFor request =>
      simp only [Catalog.perform, partitionIdsFor]
      cases request.assetName with
      | mk name warnings =>
          cases name with
          | error fault => exact ⟨.refl, sourced⟩
          | ok name =>
              have grows := partitions name (session.warn warnings)
              exact ⟨grows, sourced.grows grows⟩
  | fetch descriptor =>
      have same := fetched descriptor session
      simp only [Catalog.perform, same]
      exact ⟨.refl, sourced⟩
  | reset name =>
      refine ⟨.refl, ?_⟩
      simp only [Catalog.perform, reset]
      split
      · next held =>
          rw [Table.contains_iff_mem_keys, of.registered, ← Table.contains_iff_mem_keys] at held
          obtain ⟨asset, registered⟩ := Option.isSome_iff_exists.mp held
          exact sourced.setCursor registered (of.hasProvenance_start registered)
      · exact sourced
  | batches name overrides wanted =>
      cases registered : catalog.assets.get? name with
      | none =>
          simp only [Catalog.perform, batches, registered]
          exact ⟨.refl, sourced⟩
      | some asset =>
          rw [perform_batches registered]
          exact sourced.take records registered calls wanted
  | objects name wanted =>
      cases registered : catalog.assets.get? name with
      | none =>
          simp only [Catalog.perform, batches, registered]
          exact ⟨.refl, sourced⟩
      | some asset =>
          rw [perform_objects registered]
          exact sourced.drain records registered fetched calls wanted
  | answer request wanted =>
      obtain ⟨-, refused⟩ | ⟨name, asset, -, registered, ⟨id, -, answered⟩ | ⟨-, answered⟩⟩ :=
        catalog.perform_answer_cases remote calls request wanted session
      · rw [refused]
        exact ⟨.refl, sourced⟩
      · rw [answered]
        have grows := of.grows_findPartition records registered calls id request.overrides session
        exact ⟨grows, sourced.grows grows⟩
      · rw [answered]
        exact sourced.take records registered calls wanted

end Catalog

namespace Fleet

variable {State : Type} {remote : Remote State} {record : State → List Exchange}
  {fleet : Fleet State}

/-- A step with a catalog or a copy only makes calls with provenance. -/
theorem grows_move (records : remote.Records record)
    (sourced : ∀ catalog ∈ fleet.catalogs,
      catalog.assets = assets ∧ catalog.IsSourced settings (record fleet.session.store))
    (calls : Nat) (step : Step) :
    Grows settings assets (record fleet.session.store)
        (record (fleet.move remote calls step.index step.move).2.session.store) ∧
      ∀ catalog ∈ (fleet.move remote calls step.index step.move).2.catalogs,
        catalog.assets = assets ∧ catalog.IsSourced settings
          (record (fleet.move remote calls step.index step.move).2.session.store) := by
  obtain same | ⟨copied, member, copies⟩ | ⟨acting, action, found, -, acted⟩ :=
    fleet.move_cases remote calls step
  · rw [same]
    exact ⟨.refl, sourced⟩
  · rw [copies]
    refine ⟨.refl, fun catalog appended => ?_⟩
    rcases List.mem_append.mp appended with old | new
    · exact sourced catalog old
    · rw [List.mem_singleton.mp new]
      exact sourced copied member
  · rw [acted]
    obtain ⟨rfl, acting_sourced⟩ := sourced acting (List.mem_of_getElem? found)
    obtain ⟨grows, sourced_after⟩ := acting_sourced.perform records calls action
    refine ⟨grows, fun catalog put => ?_⟩
    rcases List.mem_or_eq_of_mem_set put with old | new
    · obtain ⟨same_assets, catalog_sourced⟩ := sourced catalog old
      exact ⟨same_assets, catalog_sourced.grows (same_assets ▸ grows)⟩
    · rw [new]
      refine ⟨?_, sourced_after⟩
      have resolved := sourced_after.of.resolved.symm.trans acting_sourced.of.resolved
      exact Except.ok.inj resolved

theorem grows_run (records : remote.Records record)
    (sourced : ∀ catalog ∈ fleet.catalogs,
      catalog.assets = assets ∧ catalog.IsSourced settings (record fleet.session.store))
    (calls : Nat) (steps : List Step) {taken : Taken State}
    (member : taken ∈ run remote calls fleet steps) :
    Grows settings assets (record fleet.session.store) (record taken.fleet.session.store) := by
  induction steps generalizing fleet with
  | nil => contradiction
  | cons step steps ih =>
      obtain ⟨grows, sourced_after⟩ := grows_move records sourced calls step
      rw [run_cons] at member
      rcases List.mem_cons.mp member with rfl | later
      · exact grows
      · exact grows.trans (ih sourced_after later)

/--
In whatever order a new catalog and its copies are used, and whatever the store answers, each
listing request is about the bucket of the settings, is for an asset of the catalog, rolls up on
something and asks for one to a thousand keys.  Its token, if it has one, was brought by an earlier
page of the same listing that said there is more.  The store may be in use by others between two
calls.
-/
theorem requests_have_provenance {catalog : Catalog}
    (made : Catalog.ofSettings settings = .ok catalog) (remote : Remote State) (store : State)
    (clock : Clock) (calls : Nat) (steps : List Step) {taken : Taken (Transcribed State)}
    (member : taken ∈ run remote.transcribed calls
      (single catalog (.ofStore (.ofStore store) clock)) steps)
    {earlier later : List Exchange} {exchange : Exchange}
    (split : taken.fleet.session.store.exchanges = earlier ++ exchange :: later) :
    exchange.request.HasProvenance settings catalog.assets earlier := by
  have sourced : ∀ other ∈ (single catalog (.ofStore (Transcribed.ofStore store) clock)).catalogs,
      other.assets = catalog.assets ∧ other.IsSourced settings [] := by
    intro other only
    rw [List.mem_singleton.mp only]
    exact ⟨rfl, Catalog.isSourced_ofSettings made⟩
  have grows := grows_run remote.records_transcribed sourced calls steps member
  exact grows.hasProvenance split

/-- A call for a page of one of the two assets. -/
def doubledExchange (asset : Asset) (token : Option String) : Exchange where
  request := asset.request "b" token
  answer := (Script.remote.list (asset.request "b" token) doubled).1

/-- The calls of the steps before the last: a pass, a scan, the end of the copy's pass, and a page
of the other asset. -/
def pairedExchanges : List Exchange :=
  let days := everything "days" "d" 2
  [doubledExchange days none, doubledExchange days (some "d1"), doubledExchange days none,
    doubledExchange days (some "d1"), doubledExchange days (some "d1"),
    doubledExchange (everything "all" "" 1000) none]

theorem requests_have_provenance_paired :
    Catalog.ofSettings paired = .ok pair ∧
      ∃ taken ∈ run Script.remote.transcribed 2
          (single pair (.ofStore (.ofStore doubled) (.steady ⟨0⟩ 0))) pairedSteps,
        taken.fleet.session.store.exchanges =
            pairedExchanges ++ [doubledExchange (everything "days" "d" 2) (some "d1")] ∧
          ((everything "days" "d" 2).request "b" (some "d1")).HasProvenance paired pair.assets
            pairedExchanges := by
  let steps := run Script.remote.transcribed 2
    (single pair (.ofStore (.ofStore doubled) (.steady ⟨0⟩ 0))) pairedSteps
  have member : steps.getLast (List.cons_ne_nil _ _) ∈ steps := List.getLast_mem _
  have split : (steps.getLast (List.cons_ne_nil _ _)).fleet.session.store.exchanges =
      pairedExchanges ++ [doubledExchange (everything "days" "d" 2) (some "d1")] := by
    rfl
  exact ⟨ofSettings_paired, _, member, split,
    requests_have_provenance ofSettings_paired Script.remote doubled (.steady ⟨0⟩ 0) 2 pairedSteps
      member split⟩

end Fleet
end BucketCatalog
