import BucketCatalog.Proofs.Catalog

/-!
# Partitions by their ids

Listing the partitions of an asset, asking for one of them and streaming all batches are three walks
over the asset.  Over a steady store and with a clock that stands still they hand out the same keys,
so that the answer to a request for a partition can be read off the positions of its id in the list.
Every id of the list can be asked for in this way, but for the empty one: a request for it is one
for all batches.
-/

namespace BucketCatalog

/-- The id of a key at an instant. -/
def Asset.idAt (asset : Asset) (now : Instant) (key : String) : PartitionId :=
  match asset.readId key with
  | .ok id => id
  | .error miss => .sentinel now miss

/-- A clock that always shows one instant. -/
def Clock.StandsAt (clock : Clock) (now : Instant) : Prop :=
  ∀ reading, clock.instant reading = now

/-- The positions at which a list of ids has a partition. -/
def placesOf (partition : String) (ids : List PartitionId) : List Nat :=
  (List.range ids.length).filter fun place => ids[place]? = some ⟨partition⟩

theorem Walked.result_map {Item Other : Type} (make : Item → Other) (walked : Walked Item) :
    (walked.map make).result = walked.result.map (List.map make) := by
  obtain ⟨items, ending, cursor⟩ := walked
  cases ending <;> rfl

section Places

variable {partition : String} {ids : List PartitionId} {place : Nat}

theorem mem_placesOf : place ∈ placesOf partition ids ↔ ids[place]? = some ⟨partition⟩ := by
  rw [placesOf, List.mem_filter, List.mem_range, decide_eq_true_iff, and_iff_right_iff_imp]
  intro here
  exact (List.getElem?_eq_some_iff.mp here).1

theorem placesOf_cons (first : PartitionId) :
    placesOf partition (first :: ids) =
      (if first.text = partition then [0] else []) ++ (placesOf partition ids).map Nat.succ := by
  have here : first = ⟨partition⟩ ↔ first.text = partition := by
    rw [PartitionId.mk.injEq]
  rw [placesOf, List.length_cons, List.range_succ_eq_map, List.filter_cons, List.filter_map]
  by_cases same : first.text = partition
  · simp [placesOf, here, same, Function.comp_def]
  · simp [placesOf, here, same, Function.comp_def]

/-- The keys of a partition are those at its positions. -/
theorem filterMap_placesOf (keys : List String) (id : String → PartitionId) :
    (placesOf partition (keys.map id)).filterMap (fun place => keys[place]?) =
      keys.filter fun key => (id key).text = partition := by
  induction keys with
  | nil => rfl
  | cons key keys ih =>
      rw [List.map_cons, placesOf_cons, List.filterMap_append, List.filterMap_map,
        List.filter_cons, ← ih]
      by_cases same : (id key).text = partition
      · simp [same]
      · simp [same]

end Places

namespace Asset

variable {asset : Asset} {now : Instant} {clock : Clock}

theorem identify_of_standsAt (stands : clock.StandsAt now) (key : String) :
    (asset.identify key clock).1 = asset.idAt now key ∧
      (asset.identify key clock).2.2.StandsAt now := by
  cases read : asset.readId key with
  | ok id => exact ⟨by simp [identify, idAt, read], by simpa [identify, read] using stands⟩
  | error miss =>
      have later : clock.read.2.StandsAt now := stands
      refine ⟨?_, by simpa [identify, read] using later⟩
      simp [identify, idAt, read, Clock.read, stands clock.readings]

end Asset

namespace Catalog

variable {State : Type} {remote : Remote State} {settled : State → Prop} {catalog : Catalog}
  {settings : Settings} {asset : Asset} {now : Instant} {session : Session State} {store : State}
  {name : String}

/-- A scan over a steady store, by a clock that stands still, hands out the keys of one walk. -/
theorem scan_of_steady (steady : remote.ListsSteadily settled) (catalog : Catalog) (calls : Nat)
    (asset : Asset) (here : settled session.store) (stands : session.clock.StandsAt now)
    (there : settled store) :
    (catalog.scan remote calls asset session).1 =
      ((catalog.keyWalk remote store calls asset none .start).map
        fun key => (key, asset.idAt now key)).result := by
  have acts : ∀ key session, settled session.store ∧ session.clock.StandsAt now →
      (identified asset key session).1 = (key, asset.idAt now key) ∧
        settled (identified asset key session).2.store ∧
          (identified asset key session).2.clock.StandsAt now := by
    rintro key session ⟨settled_session, stands_session⟩
    obtain ⟨id_eq, stands_after⟩ := Asset.identify_of_standsAt stands_session key
    exact ⟨congrArg (Prod.mk key) id_eq, settled_session, stands_after⟩
  obtain ⟨same_walk, -⟩ :=
    Walk.run_session_of_steady steady catalog.bucket asset (fun clock => clock.StandsAt now) acts
      calls none none ⟨here, stands⟩ there
  rw [scan_eq, same_walk]
  rfl

/-- A walk that has to see everything and does ends normally. -/
theorem keyWalk_result_cases (catalog : Catalog) (remote : Remote State) (store : State)
    (calls : Nat) (asset : Asset) (cursor : Cursor) :
    (∃ fault, (catalog.keyWalk remote store calls asset none cursor).result = .error fault) ∨
      ∃ keys, catalog.keyWalk remote store calls asset none cursor = ⟨keys, .done, .start⟩ := by
  have cases := @Walk.run_none_cases _ (remote.frozen store) catalog.bucket asset calls
    cursor.token ()
  rw [keyWalk]
  revert cases
  generalize (Walk.run (remote.frozen store) catalog.bucket asset Walk.key calls none cursor.token
    ()).1 = walked
  obtain ⟨items, ending, left⟩ := walked
  rintro (unfinished | ⟨fault, failed⟩ | ⟨done, start⟩)
  · obtain rfl : ending = .unfinished := unfinished
    exact .inl ⟨_, rfl⟩
  · obtain rfl : ending = .failed fault := failed
    exact .inl ⟨_, rfl⟩
  · obtain rfl : ending = .done := done
    obtain rfl : left = .start := start
    exact .inr ⟨_, rfl⟩

theorem partitionIds_of_steady (steady : remote.ListsSteadily settled)
    (found : catalog.assets.get? name = some asset) (calls : Nat) (here : settled session.store)
    (stands : session.clock.StandsAt now) (there : settled store) :
    (catalog.partitionIds remote calls name session).1 =
      (catalog.keyWalk remote store calls asset none .start).result.map
        (List.map (asset.idAt now)) := by
  simp only [partitionIds, found]
  rw [scan_of_steady steady catalog calls asset here stands there, Walked.result_map]
  cases (catalog.keyWalk remote store calls asset none .start).result with
  | error fault => rfl
  | ok keys => simp [Except.map, Function.comp_def]

/-- The answer to a request for a partition that has some keys. -/
def choose (catalog : Catalog) (asset : Asset) (partition : String) (overrides : Overrides) :
    List String → Except Fault Descriptor
  | [] => .error (.noPartition asset.name partition)
  | [key] => .ok (catalog.defaults.describe asset overrides key)
  | keys => .error (.ambiguousPartition asset.name partition keys)

theorem findPartition_eq (catalog : Catalog) (remote : Remote State) (calls : Nat) (asset : Asset)
    (partition : String) (overrides : Overrides) (session : Session State) :
    (catalog.findPartition remote calls asset partition overrides session).1 =
      (catalog.scan remote calls asset session).1.bind fun pairs =>
        catalog.choose asset partition overrides
          ((pairs.filter fun pair => pair.2.text = partition).map Prod.fst) := by
  simp only [findPartition]
  cases catalog.scan remote calls asset session with
  | mk result after =>
      cases result with
      | error fault => rfl
      | ok pairs =>
          simp only [Except.bind]
          generalize (pairs.filter fun pair => pair.2.text = partition).map Prod.fst = chosen
          obtain _ | ⟨first, _ | ⟨second, rest⟩⟩ := chosen <;> rfl

theorem findPartition_of_steady (steady : remote.ListsSteadily settled) (catalog : Catalog)
    (asset : Asset) (partition : String) (overrides : Overrides) (calls : Nat)
    (here : settled session.store) (stands : session.clock.StandsAt now) (there : settled store) :
    (catalog.findPartition remote calls asset partition overrides session).1 =
      (catalog.keyWalk remote store calls asset none .start).result.bind fun keys =>
        catalog.choose asset partition overrides
          (keys.filter fun key => (asset.idAt now key).text = partition) := by
  rw [findPartition_eq, scan_of_steady steady catalog calls asset here stands there,
    Walked.result_map]
  cases (catalog.keyWalk remote store calls asset none .start).result with
  | error fault => rfl
  | ok keys => simp [Except.map, Except.bind, List.filter_map, Function.comp_def]

/-- The answer to a request for a partition, read off the ids of all keys. -/
structure Agrees (name partition : String) (ids : List PartitionId) (keys : List String)
    (descriptors : List Descriptor) (answer : Outcome) : Prop where
  /-- Without a position there is no such partition. -/
  none : placesOf partition ids = [] → answer = .refused (.noPartition name partition)
  /-- The batch of a single position is the answer. -/
  one : ∀ place, placesOf partition ids = [place] →
    ∃ descriptor, descriptors[place]? = some descriptor ∧ answer = .single descriptor
  /-- Several positions are ambiguous; their keys are reported. -/
  several : 2 ≤ (placesOf partition ids).length →
    answer = .refused (.ambiguousPartition name partition
      ((placesOf partition ids).filterMap fun place => keys[place]?))

theorem agrees_choose (catalog : Catalog) (asset : Asset) (partition : String)
    (overrides : Overrides) (keys : List String) (id : String → PartitionId) :
    Agrees asset.name partition (keys.map id) keys
      (keys.map (catalog.defaults.describe asset overrides))
      (.ofResult .single (catalog.choose asset partition overrides
        (keys.filter fun key => (id key).text = partition))) := by
  have key_at : ∀ place ∈ placesOf partition (keys.map id), ∃ key, keys[place]? = some key := by
    intro place member
    have here := mem_placesOf.mp member
    rw [List.getElem?_map, Option.map_eq_some_iff] at here
    obtain ⟨key, found, -⟩ := here
    exact ⟨key, found⟩
  rw [← filterMap_placesOf]
  refine ⟨fun nowhere => ?_, fun place only => ?_, fun several => ?_⟩
  · rw [nowhere]
    rfl
  · obtain ⟨key, found⟩ := key_at place (by simp [only])
    refine ⟨catalog.defaults.describe asset overrides key, by simp [found], ?_⟩
    simp [only, found, choose, Outcome.ofResult]
  · obtain ⟨first, second, rest, places⟩ : ∃ first second rest,
        placesOf partition (keys.map id) = first :: second :: rest := by
      match placesOf partition (keys.map id), several with
      | first :: second :: rest, _ => exact ⟨first, second, rest, rfl⟩
    obtain ⟨first_key, first_found⟩ := key_at first (by simp [places])
    obtain ⟨second_key, second_found⟩ := key_at second (by simp [places])
    simp [places, first_found, second_found, choose, Outcome.ofResult]

theorem IsOf.position_reset (of : catalog.IsOf settings)
    (found : catalog.assets.get? name = some asset) :
    (catalog.reset name).position asset = .start := by
  rw [reset, if_pos (of.hasCursor found), position, of.name_eq found, cursor?_setCursor, if_pos rfl]
  rfl

theorem reset_eq (catalog : Catalog) (name : String) :
    ∃ cursors, catalog.reset name = { catalog with cursors := cursors } := by
  rw [reset]
  split
  · exact ⟨_, rfl⟩
  · exact ⟨_, rfl⟩

/--
Over a steady store and with a clock that stands still, asking an asset for a partition agrees with
listing its partitions and with streaming its batches from the beginning, wherever its cursor is and
in whatever sessions the three are made.  What fails the list fails the request; otherwise the
answer is read off the positions at which the list has the partition.  Neither moves a cursor.
-/
theorem partition_answer_agrees (of : catalog.IsOf settings) (steady : remote.ListsSteadily settled)
    (found : catalog.assets.get? name = some asset) {partition : String} (some_id : partition ≠ "")
    (overrides : Overrides) (wanted : Option Nat) (calls : Nat)
    {listing asking streaming : Session State} (listing_settled : settled listing.store)
    (asking_settled : settled asking.store) (streaming_settled : settled streaming.store)
    (listing_stands : listing.clock.StandsAt now) (asking_stands : asking.clock.StandsAt now) :
    (catalog.perform remote calls (.partitionIds name) listing).2.1 = catalog ∧
      (catalog.perform remote calls (.answer ⟨some name, some partition, overrides⟩ wanted)
        asking).2.1 = catalog ∧
      ((∃ fault,
          (catalog.perform remote calls (.partitionIds name) listing).1 = .refused fault ∧
          (catalog.perform remote calls (.answer ⟨some name, some partition, overrides⟩ wanted)
            asking).1 = .refused fault) ∨
        ∃ keys,
          catalog.keyWalk remote streaming.store calls asset none .start = ⟨keys, .done, .start⟩ ∧
          (catalog.perform remote calls (.partitionIds name) listing).1 =
            .partitionIds (keys.map (asset.idAt now)) ∧
          ((catalog.reset name).perform remote calls (.batches name overrides none) streaming).1 =
            .stream ⟨keys.map (catalog.defaults.describe asset overrides), .done, .start⟩ ∧
          Agrees name partition (keys.map (asset.idAt now)) keys
            (keys.map (catalog.defaults.describe asset overrides))
            (catalog.perform remote calls (.answer ⟨some name, some partition, overrides⟩ wanted)
              asking).1) := by
  have given : ((some partition).filter fun id => !id.isEmpty) = some partition := by
    simpa [Option.filter] using some_id
  have listed := partitionIds_of_steady steady found calls listing_settled listing_stands
    streaming_settled
  have asked := findPartition_of_steady steady catalog asset partition overrides calls
    asking_settled asking_stands streaming_settled
  have listed_outcome : (catalog.perform remote calls (.partitionIds name) listing).1 =
      .ofResult .partitionIds (catalog.partitionIds remote calls name listing).1 := rfl
  rw [perform_answer_partition rfl found given, listed_outcome, listed, asked]
  refine ⟨rfl, rfl, ?_⟩
  obtain ⟨fault, failed⟩ | ⟨keys, walked⟩ :=
    catalog.keyWalk_result_cases remote streaming.store calls asset .start
  · left
    rw [failed]
    exact ⟨fault, rfl, rfl⟩
  · right
    have whole : (catalog.keyWalk remote streaming.store calls asset none .start).result =
        .ok keys := by
      rw [walked]
      rfl
    refine ⟨keys, walked, by rw [whole]; rfl, ?_, ?_⟩
    · obtain ⟨cursors, reset_catalog⟩ := catalog.reset_eq name
      have found_after : (catalog.reset name).assets.get? name = some asset := by
        rw [reset_catalog]
        exact found
      obtain ⟨handed, -, -⟩ := take_of_steady steady (catalog.reset name) calls ⟨asset, overrides⟩
        none streaming_settled streaming_settled
      rw [perform_batches found_after, handed, of.position_reset found, reset_catalog]
      exact congrArg (fun walked : Walked String =>
        Outcome.stream (walked.map (catalog.defaults.describe asset overrides))) walked
    · rw [whole, ← of.name_eq found]
      exact agrees_choose catalog asset partition overrides keys (asset.idAt now)

theorem partition_answer_agrees_doubled :
    (pair.setCursor "days" (.ofToken "d1")).IsOf paired ∧
      (Script.remote.frozen doubled).ListsSteadily (fun _ => True) ∧
      doubledSession.clock.StandsAt ⟨0⟩ ∧
      Agrees "days" "1" [⟨"1"⟩, ⟨"1"⟩, ⟨"2"⟩] ["d1", "d1", "d2"]
        (["d1", "d1", "d2"].map (pair.defaults.describe (everything "days" "d" 2) .none))
        ((pair.setCursor "days" (.ofToken "d1")).perform (Script.remote.frozen doubled) 2
          (.answer ⟨some "days", some "1", .none⟩ none) doubledSession).1 := by
  have of : (pair.setCursor "days" (.ofToken "d1")).IsOf paired :=
    (isOf_ofSettings ofSettings_paired).setCursor (by decide +kernel) _
  have steady := (Script.remote.isSteady_frozen doubled).toListsSteadily
  have stands : doubledSession.clock.StandsAt ⟨0⟩ := by
    intro reading
    simp [doubledSession, Session.ofStore, Clock.steady]
  refine ⟨of, steady, stands, ?_⟩
  obtain ⟨-, -, ⟨fault, failed, -⟩ | ⟨keys, walked, -, -, agrees⟩⟩ :=
    @partition_answer_agrees Unit _ _ _ paired (everything "days" "d" 2) ⟨0⟩ "days" of steady rfl
      "1" (by decide) .none none 2 doubledSession doubledSession doubledSession trivial trivial
      trivial stands stands
  · contradiction
  · have keys_eq : ["d1", "d1", "d2"] = keys := congrArg Walked.items walked
    subst keys_eq
    exact agrees

theorem answer_partition {partition : String} (found : catalog.assets.get? name = some asset)
    (some_id : partition ≠ "") (remote : Remote State) (calls : Nat) (overrides : Overrides)
    (session : Session State) :
    (catalog.answer remote calls ⟨some name, some partition, overrides⟩ session).1 =
      (catalog.findPartition remote calls asset partition overrides session).1.map .single := by
  have given : ((some partition).filter fun id => !id.isEmpty) = some partition := by
    simpa [Option.filter] using some_id
  simp only [answer, found, given]

/-- An empty id is no partition. -/
theorem answer_empty_partition (found : catalog.assets.get? name = some asset)
    (remote : Remote State) (calls : Nat) (overrides : Overrides) (session : Session State) :
    (catalog.answer remote calls ⟨some name, some "", overrides⟩ session).1 =
      .ok (.stream ⟨asset, overrides⟩) := by
  have left_out : ((some "").filter fun id => !id.isEmpty) = none := rfl
  simp only [answer, found, left_out]

/-- What a request for the partition of some keys is answered with: the batch of the only key, or
the refusal to choose among several. -/
inductive AnswersFor (catalog : Catalog) (name : String) (asset : Asset) (partition : String)
    (overrides : Overrides) : List String → Except Fault BatchAnswer → Prop where
  /-- A single key is answered with its batch. -/
  | single (key : String) :
      AnswersFor catalog name asset partition overrides [key]
        (.ok (.single (catalog.defaults.describe asset overrides key)))
  /-- Several keys are all named. -/
  | ambiguous (keys : List String) (several : 2 ≤ keys.length) :
      AnswersFor catalog name asset partition overrides keys
        (.error (.ambiguousPartition name partition keys))

theorem answersFor_choose (catalog : Catalog) (asset : Asset) (partition : String)
    (overrides : Overrides) {keys : List String} (some_keys : keys ≠ []) :
    catalog.AnswersFor asset.name asset partition overrides keys
      ((catalog.choose asset partition overrides keys).map .single) := by
  obtain _ | ⟨first, _ | ⟨second, rest⟩⟩ := keys
  · contradiction
  · exact .single first
  · exact .ambiguous (first :: second :: rest) (by simp)

/-- A list of ids is made from the keys of a walk that ends normally, which is the same walk when
more pages may be read. -/
theorem keyWalk_of_partitionIds (steady : remote.ListsSteadily settled)
    (found : catalog.assets.get? name = some asset) {calls more : Nat} (enough : calls ≤ more)
    (here : settled session.store) (stands : session.clock.StandsAt now) (there : settled store)
    {ids : List PartitionId} (listed : (catalog.partitionIds remote calls name session).1 = .ok ids) :
    ∃ keys, catalog.keyWalk remote store more asset none .start = ⟨keys, .done, .start⟩ ∧
      ids = keys.map (asset.idAt now) := by
  rw [partitionIds_of_steady steady found calls here stands there] at listed
  obtain ⟨fault, failed⟩ | ⟨keys, walked⟩ :=
    catalog.keyWalk_result_cases remote store calls asset .start
  · simp [failed, Except.map] at listed
  · have ids_eq : keys.map (asset.idAt now) = ids := by
      rw [walked] at listed
      exact Except.ok.inj listed
    refine ⟨keys, ?_, ids_eq.symm⟩
    obtain ⟨left, rfl⟩ := Nat.exists_eq_add_of_le enough
    have rests : (catalog.keyWalk remote store calls asset none .start).ending ≠ .unfinished := by
      simp [walked]
    rw [← walked, keyWalk, keyWalk, Walk.run_add rests]

/--
Over a steady store and with a clock that stands still, whoever asks an asset for a partition that
its list has gets an answer for that partition, wherever the cursors are and in whatever sessions
the two are made: the batch of the key that has the id, or a refusal that names all keys that have
it.  Only the empty id, such as that of a key that is the prefix of the asset and nothing else,
cannot be asked for: whoever gives it gives no partition, and gets all batches.
-/
theorem listed_partition_is_answered (of : catalog.IsOf settings)
    (steady : remote.ListsSteadily settled) (found : catalog.assets.get? name = some asset)
    {calls more : Nat} (enough : calls ≤ more) {listing asking : Session State}
    (listing_settled : settled listing.store) (asking_settled : settled asking.store)
    (listing_stands : listing.clock.StandsAt now) (asking_stands : asking.clock.StandsAt now)
    {ids : List PartitionId} (listed : (catalog.partitionIds remote calls name listing).1 = .ok ids)
    {id : PartitionId} (member : id ∈ ids) (overrides : Overrides) :
    ∃ keys, catalog.keyWalk remote asking.store more asset none .start = ⟨keys, .done, .start⟩ ∧
      ids = keys.map (asset.idAt now) ∧
      (id.text ≠ "" →
        catalog.AnswersFor name asset id.text overrides
          (keys.filter fun key => asset.idAt now key = id)
          (catalog.answer remote more ⟨some name, some id.text, overrides⟩ asking).1) ∧
      (id.text = "" →
        (catalog.answer remote more ⟨some name, some id.text, overrides⟩ asking).1 =
          .ok (.stream ⟨asset, overrides⟩)) := by
  obtain ⟨keys, walked, ids_eq⟩ :=
    keyWalk_of_partitionIds steady found enough listing_settled listing_stands asking_settled listed
  refine ⟨keys, walked, ids_eq, fun some_id => ?_, fun empty => ?_⟩
  · rw [answer_partition found some_id, findPartition_of_steady steady catalog asset id.text
      overrides more asking_settled asking_stands asking_settled, walked]
    have chosen_eq : (keys.filter fun key => (asset.idAt now key).text = id.text) =
        keys.filter fun key => asset.idAt now key = id := by
      obtain ⟨text⟩ := id
      refine List.filter_congr fun key _ => ?_
      obtain ⟨other⟩ := asset.idAt now key
      simp
    have some_keys : (keys.filter fun key => asset.idAt now key = id) ≠ [] := by
      rw [ids_eq] at member
      obtain ⟨key, key_member, same⟩ := List.mem_map.mp member
      exact List.ne_nil_of_mem (List.mem_filter.mpr ⟨key_member, by simpa using same⟩)
    have answered := answersFor_choose catalog asset id.text overrides some_keys
    rw [of.name_eq found, ← chosen_eq] at answered
    rw [← chosen_eq]
    exact answered
  · rw [empty]
    exact answer_empty_partition found remote more overrides asking

theorem listed_partition_is_answered_doubled :
    pair.IsOf paired ∧ (Script.remote.frozen doubled).ListsSteadily (fun _ => True) ∧
      doubledSession.clock.StandsAt ⟨0⟩ ∧
      (pair.partitionIds (Script.remote.frozen doubled) 2 "days" doubledSession).1 =
        .ok [⟨"1"⟩, ⟨"1"⟩, ⟨"2"⟩] ∧
      pair.AnswersFor "days" (everything "days" "d" 2) "1" .none ["d1", "d1"]
        (pair.answer (Script.remote.frozen doubled) 3 ⟨some "days", some "1", .none⟩
          doubledSession).1 := by
  have of : pair.IsOf paired := isOf_ofSettings ofSettings_paired
  have steady := (Script.remote.isSteady_frozen doubled).toListsSteadily
  have stands : doubledSession.clock.StandsAt ⟨0⟩ := by
    intro reading
    simp [doubledSession, Session.ofStore, Clock.steady]
  have listed : (pair.partitionIds (Script.remote.frozen doubled) 2 "days" doubledSession).1 =
      .ok [⟨"1"⟩, ⟨"1"⟩, ⟨"2"⟩] := by
    rfl
  refine ⟨of, steady, stands, listed, ?_⟩
  obtain ⟨keys, walked, -, answered, -⟩ :=
    @listed_partition_is_answered Unit _ _ _ paired (everything "days" "d" 2) ⟨0⟩ "days" of steady
      rfl 2 3 (by decide) doubledSession doubledSession trivial trivial stands stands _ listed
      ⟨"1"⟩ (by decide) .none
  obtain rfl : ["d1", "d1", "d2"] = keys := congrArg Walked.items walked
  exact answered (by decide)

/-- A store that lists a key that is the prefix of an asset, and another. -/
def bare : Script where
  pages := [(none, .ok ⟨some [⟨"d", 1⟩, ⟨"d1", 1⟩], none, false, none⟩)]
  objects := []

/-- The list of partitions has an empty id, and asking for it is answered with all batches. -/
theorem empty_partition_is_not_answered :
    (Script.remote.frozen bare).ListsSteadily (fun _ => True) ∧
      (pair.partitionIds (Script.remote.frozen bare) 1 "days" doubledSession).1 =
        .ok [⟨""⟩, ⟨"1"⟩] ∧
      (pair.answer (Script.remote.frozen bare) 1 ⟨some "days", some "", .none⟩
        doubledSession).1 = .ok (.stream ⟨everything "days" "d" 2, .none⟩) :=
  ⟨(Script.remote.isSteady_frozen bare).toListsSteadily, rfl, rfl⟩

end Catalog

end BucketCatalog
