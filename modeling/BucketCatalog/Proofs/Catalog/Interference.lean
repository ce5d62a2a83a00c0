import BucketCatalog.Catalog.Fleet
import BucketCatalog.Proofs.Catalog

/-!
# Assets that do not interfere

The batches that a catalog hands out of an asset depend on what was done with that asset of that
catalog alone.  Two runs are compared: any run, and the one that is left of it when everything else
is deleted.  What carries the induction is that the two catalogs have the asset's cursor in common;
a step that is deleted leaves that cursor as it is, and one that is not does the same to both.
-/

namespace BucketCatalog

/-- An action whose batches are not opened. -/
def Action.withoutFetches : Action → Action
  | .objects name wanted => .batches name .none wanted
  | action => action

/-- The outcome of a stream, opened or not. -/
inductive Outcome.SameStream (fetch : Descriptor → Except Fault Fetched) :
    Outcome → Outcome → Prop where
  /-- The outcomes are the same. -/
  | same (outcome : Outcome) : SameStream fetch outcome outcome
  /-- The first has opened the batches of the second. -/
  | opened (walked : Walked Descriptor) :
      SameStream fetch (.objects (walked.map fetch)) (.stream walked)

theorem Outcome.SameStream.of_eq {fetch : Descriptor → Except Fault Fetched}
    {first second : Outcome} (same : first = second) : SameStream fetch first second :=
  same ▸ .same first

variable {State : Type} {remote : Remote State} {settled : State → Prop} {settings : Settings}
  {name : String}

namespace Catalog

variable {catalog other : Catalog} {asset : Asset} {session later : Session State}

/-- Two catalogs of the same settings that go on with an asset from the same position. -/
structure Alike (settings : Settings) (name : String) (catalog other : Catalog) : Prop where
  /-- The first is a catalog of the settings. -/
  of : catalog.IsOf settings
  /-- So is the second. -/
  other_of : other.IsOf settings
  /-- They have the cursor of the asset in common. -/
  cursor : catalog.cursor? name = other.cursor? name

namespace Alike

theorem assets_eq (alike : Alike settings name catalog other) : catalog.assets = other.assets :=
  Except.ok.inj (alike.of.resolved.symm.trans alike.other_of.resolved)

theorem defaults_eq (alike : Alike settings name catalog other) :
    catalog.defaults = other.defaults :=
  alike.of.defaults.trans alike.other_of.defaults.symm

theorem contains_eq (alike : Alike settings name catalog other) (key : String) :
    catalog.cursors.contains key = other.cursors.contains key := by
  rw [Bool.eq_iff_iff, Table.contains_iff_mem_keys, Table.contains_iff_mem_keys,
    alike.of.registered, alike.other_of.registered, alike.assets_eq]

theorem position_eq (alike : Alike settings name catalog other)
    (found : catalog.assets.get? name = some asset) :
    catalog.position asset = other.position asset := by
  rw [position, position, alike.of.name_eq found, alike.cursor]

theorem keyWalk_eq (alike : Alike settings name catalog other) (remote : Remote State)
    (store : State) (calls : Nat) (asset : Asset) (wanted : Option Nat) (cursor : Cursor) :
    catalog.keyWalk remote store calls asset wanted cursor =
      other.keyWalk remote store calls asset wanted cursor := by
  rw [keyWalk, keyWalk, bucket, bucket, alike.defaults_eq]

theorem setCursor (alike : Alike settings name catalog other)
    (held : catalog.cursors.contains name) (cursor : Cursor) :
    Alike settings name (catalog.setCursor name cursor) (other.setCursor name cursor) where
  of := alike.of.setCursor held cursor
  other_of := alike.other_of.setCursor (alike.contains_eq name ▸ held) cursor
  cursor := by
    rw [cursor?_setCursor, cursor?_setCursor, if_pos rfl, if_pos rfl]

/-- An action that does not move the cursor of the asset leaves the catalogs alike. -/
theorem perform_left (alike : Alike settings name catalog other) (remote : Remote State)
    (calls : Nat) {action : Action} (elsewhere : action.moves? ≠ some name)
    (session : Session State) :
    Alike settings name (catalog.perform remote calls action session).2.1 other where
  of := alike.of.perform remote calls action session
  other_of := alike.other_of
  cursor := by
    obtain same | ⟨moved_name, cursor, moves, -, moved⟩ :=
      alike.of.perform_cases remote calls action session
    · rw [same, alike.cursor]
    · have apart : name ≠ moved_name := fun same => elsewhere (same ▸ moves)
      rw [moved, cursor?_setCursor, if_neg apart, alike.cursor]

theorem reset (alike : Alike settings name catalog other) :
    Alike settings name (catalog.reset name) (other.reset name) := by
  rw [Catalog.reset, Catalog.reset, ← alike.contains_eq]
  split
  · next held => exact alike.setCursor held .start
  · exact alike

theorem take (alike : Alike settings name catalog other) (steady : remote.ListsSteadily settled)
    (found : catalog.assets.get? name = some asset) (calls : Nat) (overrides : Overrides)
    (wanted : Option Nat) (here : settled session.store) (there : settled later.store) :
    (catalog.take remote calls ⟨asset, overrides⟩ wanted session).1 =
        (other.take remote calls ⟨asset, overrides⟩ wanted later).1 ∧
      Alike settings name (catalog.take remote calls ⟨asset, overrides⟩ wanted session).2.1
        (other.take remote calls ⟨asset, overrides⟩ wanted later).2.1 := by
  obtain ⟨handed, moved, -⟩ :=
    take_of_steady steady catalog calls ⟨asset, overrides⟩ wanted here here
  obtain ⟨other_handed, other_moved, -⟩ :=
    take_of_steady steady other calls ⟨asset, overrides⟩ wanted there here
  rw [← alike.keyWalk_eq, ← alike.position_eq found] at other_handed other_moved
  rw [handed, other_handed, moved, other_moved, alike.defaults_eq, alike.of.name_eq found]
  exact ⟨rfl, alike.setCursor (alike.of.hasCursor found) _⟩

theorem objects (alike : Alike settings name catalog other) (steady : remote.IsSteady settled)
    (found : catalog.assets.get? name = some asset) (calls : Nat) (wanted : Option Nat)
    {first : Session State} (at_first : settled first.store) (here : settled session.store)
    (there : settled later.store) :
    Outcome.SameStream (fun descriptor => (remote.session.fetch descriptor first).1)
        (.objects (catalog.drain remote calls ⟨asset, .none⟩ remote.session.fetch wanted session).1)
        (other.take remote calls ⟨asset, .none⟩ wanted later).1 ∧
      Alike settings name
        (catalog.drain remote calls ⟨asset, .none⟩ remote.session.fetch wanted session).2.1
        (other.take remote calls ⟨asset, .none⟩ wanted later).2.1 := by
  have fetched : ∀ descriptor (session : Session State), settled session.store →
      (remote.session.fetch descriptor session).1 = (remote.session.fetch descriptor first).1 ∧
        settled (remote.session.fetch descriptor session).2.store :=
    fun descriptor session here => fetch_of_steady steady.session descriptor here at_first
  have lists := steady.toListsSteadily
  obtain ⟨handed, moved, -⟩ :=
    drain_of_steady lists catalog calls ⟨asset, .none⟩ fetched wanted here here
  obtain ⟨other_handed, other_moved, -⟩ :=
    take_of_steady lists other calls ⟨asset, .none⟩ wanted there here
  rw [← alike.keyWalk_eq, ← alike.position_eq found] at other_handed other_moved
  rw [handed, other_handed, moved, other_moved, alike.defaults_eq, alike.of.name_eq found,
    ← Walked.map_map]
  exact ⟨.opened _, alike.setCursor (alike.of.hasCursor found) _⟩

/-- An action on the asset comes to the same in both catalogs, and leaves them alike. -/
theorem perform_both (alike : Alike settings name catalog other) (steady : remote.IsSteady settled)
    (calls : Nat) {action : Action} (moves : action.moves? = some name) {first : Session State}
    (at_first : settled first.store) (here : settled session.store)
    (there : settled later.store) :
    Outcome.SameStream (fun descriptor => (remote.session.fetch descriptor first).1)
        (catalog.perform remote calls action session).1
        (other.perform remote calls action.withoutFetches later).1 ∧
      Alike settings name (catalog.perform remote calls action session).2.1
        (other.perform remote calls action.withoutFetches later).2.1 := by
  have lists := steady.toListsSteadily
  cases action with
  | partitionIds asset => simp [Action.moves?] at moves
  | partitionIdsFor request => simp [Action.moves?] at moves
  | fetch descriptor => simp [Action.moves?] at moves
  | reset asset =>
      obtain rfl := Option.some.inj moves
      exact ⟨.same _, alike.reset⟩
  | batches asset overrides wanted =>
      obtain rfl := Option.some.inj moves
      cases found : catalog.assets.get? asset with
      | none =>
          have other_found := alike.assets_eq ▸ found
          simp only [perform, Action.withoutFetches, batches, found, other_found]
          exact ⟨.same _, alike⟩
      | some asset =>
          have other_found := alike.assets_eq ▸ found
          simp only [Action.withoutFetches]
          rw [perform_batches found, perform_batches other_found]
          exact (alike.take lists found calls overrides wanted here there).imp_left .of_eq
  | objects asset wanted =>
      obtain rfl := Option.some.inj moves
      cases found : catalog.assets.get? asset with
      | none =>
          have other_found := alike.assets_eq ▸ found
          simp only [perform, Action.withoutFetches, batches, found, other_found]
          exact ⟨.same _, alike⟩
      | some asset =>
          have other_found := alike.assets_eq ▸ found
          simp only [Action.withoutFetches]
          rw [perform_objects found, perform_batches other_found]
          exact alike.objects steady found calls wanted at_first here there
  | answer request wanted =>
      obtain ⟨whole, asked⟩ : (request.partition.filter fun id => !id.isEmpty) = none ∧
          request.asset = some name := by
        simp only [Action.moves?] at moves
        split at moves
        · next whole => exact ⟨whole, moves⟩
        · contradiction
      cases found : catalog.assets.get? name with
      | none =>
          have unknown : ∀ asked_name, request.asset = some asked_name →
              catalog.assets.get? asked_name = none := by
            simp [asked, found]
          simp only [Action.withoutFetches]
          rw [perform_answer_unknown unknown, perform_answer_unknown (alike.assets_eq ▸ unknown)]
          exact ⟨.same _, alike⟩
      | some asset =>
          have other_found := alike.assets_eq ▸ found
          simp only [Action.withoutFetches]
          rw [perform_answer_whole asked found whole, perform_answer_whole asked other_found whole]
          exact (alike.take lists found calls request.overrides wanted here there).imp_left .of_eq

end Alike
end Catalog

/-- The asset whose cursor something done with a catalog may move. -/
def Move.moves? : Move → Option String
  | .act action => action.moves?
  | .copy => none

namespace Fleet

/-- What is done with the catalog of a number. -/
structure Step where
  /-- The number of the catalog. -/
  index : Nat
  /-- What is done with it. -/
  move : Move

namespace Step

/-- Whether a step may move the cursor of an asset in the catalog of a number. -/
def concerns (index : Nat) (name : String) (step : Step) : Bool :=
  step.index = index ∧ step.move.moves? = some name

/-- A step whose batches are not opened. -/
def withoutFetches (step : Step) : Step :=
  match step.move with
  | .act action => ⟨step.index, .act action.withoutFetches⟩
  | .copy => step

/-- The steps that concern an asset of a catalog, without their fetches. -/
def undisturbed (index : Nat) (name : String) (steps : List Step) : List Step :=
  (steps.filter (concerns index name)).map withoutFetches

theorem exists_of_concerns {index : Nat} {step : Step} (concerned : step.concerns index name) :
    ∃ action, step = ⟨index, .act action⟩ ∧ action.moves? = some name := by
  obtain ⟨moved, move⟩ := step
  obtain ⟨here, moves⟩ : moved = index ∧ move.moves? = some name := by
    simpa [concerns] using concerned
  subst here
  cases move with
  | copy => contradiction
  | act action => exact ⟨action, rfl, moves⟩

end Step

/-- A step that was taken. -/
structure Taken (State : Type) where
  /-- The step. -/
  step : Step
  /-- What it came to. -/
  outcome : Outcome
  /-- The fleet that it left. -/
  fleet : Fleet State

/-- Take steps one after the other. -/
def run (remote : Remote State) (calls : Nat) : Fleet State → List Step → List (Taken State)
  | _, [] => []
  | fleet, step :: steps =>
      let (outcome, after) := fleet.move remote calls step.index step.move
      ⟨step, outcome, after⟩ :: run remote calls after steps

/-- The cursor of an asset in the catalog of a number. -/
def cursor? (fleet : Fleet State) (index : Nat) (name : String) : Option Cursor :=
  fleet.catalogs[index]?.bind fun catalog => catalog.cursor? name

variable {fleet kept : Fleet State} {index : Nat} {catalog : Catalog}

theorem run_cons (remote : Remote State) (calls : Nat) (fleet : Fleet State) (step : Step)
    (steps : List Step) :
    run remote calls fleet (step :: steps) =
      ⟨step, (fleet.move remote calls step.index step.move).1,
          (fleet.move remote calls step.index step.move).2⟩ ::
        run remote calls (fleet.move remote calls step.index step.move).2 steps := rfl

theorem move_act (found : fleet.catalogs[index]? = some catalog) (remote : Remote State)
    (calls : Nat) (action : Action) :
    fleet.move remote calls index (.act action) =
      ((catalog.perform remote calls action fleet.session).1,
        ⟨fleet.catalogs.set index (catalog.perform remote calls action fleet.session).2.1,
          (catalog.perform remote calls action fleet.session).2.2⟩) := by
  simp only [move, found]

/-- A step does nothing, copies a catalog, or puts what an action leaves of one in its place. -/
theorem move_cases (fleet : Fleet State) (remote : Remote State) (calls : Nat) (step : Step) :
    (fleet.move remote calls step.index step.move).2 = fleet ∨
      (∃ catalog ∈ fleet.catalogs,
        (fleet.move remote calls step.index step.move).2 =
          { fleet with catalogs := fleet.catalogs ++ [catalog] }) ∨
      ∃ catalog action, fleet.catalogs[step.index]? = some catalog ∧ step.move = .act action ∧
        (fleet.move remote calls step.index step.move).2 =
          ⟨fleet.catalogs.set step.index (catalog.perform remote calls action fleet.session).2.1,
            (catalog.perform remote calls action fleet.session).2.2⟩ := by
  obtain ⟨moved, move⟩ := step
  cases found : fleet.catalogs[moved]? with
  | none => exact .inl (by simp only [Fleet.move, found])
  | some catalog =>
      cases move with
      | copy =>
          have member := List.mem_of_getElem? found
          exact .inr (.inl ⟨catalog, member, by simp only [Fleet.move, found]⟩)
      | act action =>
          exact .inr (.inr ⟨catalog, action, rfl, rfl, by rw [move_act found]⟩)

theorem settled_move (steady : remote.IsSteady settled) (here : settled fleet.session.store)
    (calls : Nat) (step : Step) :
    settled (fleet.move remote calls step.index step.move).2.session.store := by
  obtain same | ⟨catalog, -, copied⟩ | ⟨catalog, action, -, -, acted⟩ :=
    fleet.move_cases remote calls step
  · rwa [same]
  · rwa [copied]
  · rw [acted]
    exact Catalog.settled_perform steady catalog calls action here

theorem isOf_move (of : ∀ catalog ∈ fleet.catalogs, catalog.IsOf settings) (remote : Remote State)
    (calls : Nat) (step : Step) :
    ∀ catalog ∈ (fleet.move remote calls step.index step.move).2.catalogs,
      catalog.IsOf settings := by
  obtain same | ⟨copied, member, copies⟩ | ⟨acting, action, found, -, acted⟩ :=
    fleet.move_cases remote calls step
  · rwa [same]
  · rw [copies]
    intro catalog appended
    rcases List.mem_append.mp appended with old | new
    · exact of catalog old
    · rw [List.mem_singleton.mp new]
      exact of copied member
  · rw [acted]
    intro catalog put
    rcases List.mem_or_eq_of_mem_set put with old | new
    · exact of catalog old
    · rw [new]
      exact (of acting (List.mem_of_getElem? found)).perform remote calls action fleet.session

theorem isOf_run (of : ∀ catalog ∈ fleet.catalogs, catalog.IsOf settings) (remote : Remote State)
    (calls : Nat) (steps : List Step) {taken : Taken State}
    (member : taken ∈ run remote calls fleet steps) :
    ∀ catalog ∈ taken.fleet.catalogs, catalog.IsOf settings := by
  induction steps generalizing fleet with
  | nil => contradiction
  | cons step steps ih =>
      have of_after := isOf_move of remote calls step
      rw [run_cons] at member
      rcases List.mem_cons.mp member with rfl | later
      · exact of_after
      · exact ih of_after later

/-- Two fleets over settled stores whose catalogs of a number are alike. -/
structure Alike (settled : State → Prop) (settings : Settings) (index : Nat) (name : String)
    (fleet kept : Fleet State) : Prop where
  /-- The store of the first is settled. -/
  here : settled fleet.session.store
  /-- So is that of the second. -/
  there : settled kept.session.store
  /-- Their catalogs are alike. -/
  catalogs : ∃ catalog other, fleet.catalogs[index]? = some catalog ∧
    kept.catalogs[index]? = some other ∧ catalog.Alike settings name other

namespace Alike

theorem cursor_eq (alike : Alike settled settings index name fleet kept) :
    fleet.cursor? index name = kept.cursor? index name := by
  obtain ⟨catalog, other, found, other_found, alike⟩ := alike.catalogs
  simp [cursor?, found, other_found, alike.cursor]

/-- A step that does not concern the asset leaves the fleets alike. -/
theorem move_left (alike : Alike settled settings index name fleet kept)
    (steady : remote.IsSteady settled) (calls : Nat) {step : Step}
    (elsewhere : ¬ step.concerns index name) :
    Alike settled settings index name (fleet.move remote calls step.index step.move).2 kept where
  here := settled_move steady alike.here calls step
  there := alike.there
  catalogs := by
    obtain ⟨catalog, other, found, other_found, alike⟩ := alike.catalogs
    obtain same | ⟨copied, -, copies⟩ | ⟨acting, action, acting_found, acts, acted⟩ :=
      fleet.move_cases remote calls step
    · exact ⟨catalog, other, by rw [same, found], other_found, alike⟩
    · have found_after : (fleet.catalogs ++ [copied])[index]? = some catalog := by
        rw [List.getElem?_append_left (List.getElem?_eq_some_iff.mp found).1, found]
      exact ⟨catalog, other, by rw [copies, found_after], other_found, alike⟩
    · rw [acted, List.getElem?_set]
      by_cases here : step.index = index
      · have unmoved : action.moves? ≠ some name := by
          intro moves
          exact elsewhere (by simp [Step.concerns, Move.moves?, here, acts, moves])
        obtain rfl : acting = catalog := by
          rw [here, found] at acting_found
          exact (Option.some.inj acting_found).symm
        have alike_after := alike.perform_left remote calls unmoved fleet.session
        refine ⟨_, other, ?_, other_found, alike_after⟩
        simp [here, (List.getElem?_eq_some_iff.mp found).1]
      · exact ⟨catalog, other, by rw [if_neg here, found], other_found, alike⟩

/-- An action on the asset comes to the same in both fleets, and leaves them alike. -/
theorem move_both (alike : Alike settled settings index name fleet kept)
    (steady : remote.IsSteady settled) (calls : Nat) {action : Action}
    (moves : action.moves? = some name) {first : Session State} (at_first : settled first.store) :
    Outcome.SameStream (fun descriptor => (remote.session.fetch descriptor first).1)
        (fleet.move remote calls index (.act action)).1
        (kept.move remote calls index (.act action.withoutFetches)).1 ∧
      Alike settled settings index name (fleet.move remote calls index (.act action)).2
        (kept.move remote calls index (.act action.withoutFetches)).2 := by
  have here := settled_move steady alike.here calls ⟨index, .act action⟩
  have there := settled_move steady alike.there calls ⟨index, .act action.withoutFetches⟩
  obtain ⟨catalog, other, found, other_found, both⟩ := alike.catalogs
  obtain ⟨same, both_after⟩ :=
    both.perform_both steady calls moves at_first alike.here alike.there
  refine ⟨by rwa [move_act found, move_act other_found], here, there, _, _, ?_, ?_, both_after⟩
  · simp [move_act found, (List.getElem?_eq_some_iff.mp found).1]
  · simp [move_act other_found, (List.getElem?_eq_some_iff.mp other_found).1]

/-- The steps on the asset come to the same as in the run that is left of them. -/
theorem run_both (alike : Alike settled settings index name fleet kept)
    (steady : remote.IsSteady settled) (calls : Nat) {first : Session State}
    (at_first : settled first.store) (steps : List Step) :
    List.Forall₂
      (fun taken taken_kept =>
        Outcome.SameStream (fun descriptor => (remote.session.fetch descriptor first).1)
            taken.outcome taken_kept.outcome ∧
          taken.fleet.cursor? index name = taken_kept.fleet.cursor? index name)
      ((run remote calls fleet steps).filter fun taken => taken.step.concerns index name)
      (run remote calls kept (Step.undisturbed index name steps)) := by
  induction steps generalizing fleet kept with
  | nil => exact .nil
  | cons step steps ih =>
      rw [run_cons, List.filter_cons, Step.undisturbed, List.filter_cons]
      -- A step on the asset is taken in both runs, any other step in the first alone.
      by_cases concerned : step.concerns index name
      · obtain ⟨action, rfl, moves⟩ := Step.exists_of_concerns concerned
        obtain ⟨same, alike_after⟩ := alike.move_both steady calls moves at_first
        rw [if_pos concerned, if_pos concerned, List.map_cons, run_cons]
        exact .cons ⟨same, alike_after.cursor_eq⟩ (ih alike_after)
      · rw [if_neg concerned, if_neg concerned]
        exact ih (alike.move_left steady calls concerned)

end Alike

/--
In a run over a steady store, the streams of an asset of a catalog hand out the same, and the cursor
of the asset is the same after each of its steps, as in the run that is left when everything else is
deleted: what is done with other assets, with copies of the catalog and with unknown names, fetches
and partition scans.  At every moment each catalog has a cursor for each of its assets and for
nothing else.
-/
theorem assets_do_not_interfere (steady : remote.IsSteady settled)
    (here : settled fleet.session.store) (of : ∀ catalog ∈ fleet.catalogs, catalog.IsOf settings)
    (there : index < fleet.catalogs.length) (name : String) (calls : Nat) (steps : List Step) :
    List.Forall₂
        (fun taken kept =>
          Outcome.SameStream (fun descriptor => (remote.session.fetch descriptor fleet.session).1)
              taken.outcome kept.outcome ∧
            taken.fleet.cursor? index name = kept.fleet.cursor? index name)
        ((run remote calls fleet steps).filter fun taken => taken.step.concerns index name)
        (run remote calls fleet (Step.undisturbed index name steps)) ∧
      ∀ taken ∈ run remote calls fleet steps, ∀ catalog ∈ taken.fleet.catalogs,
        settings.resolveAssets = .ok catalog.assets ∧
          catalog.cursors.keys = catalog.assets.keys := by
  have found : fleet.catalogs[index]? = some fleet.catalogs[index] :=
    List.getElem?_eq_getElem there
  have of_index := of _ (List.getElem_mem there)
  have alike : Alike settled settings index name fleet fleet :=
    ⟨here, here, _, _, found, found, of_index, of_index, rfl⟩
  refine ⟨alike.run_both steady calls here steps, fun taken member catalog present => ?_⟩
  have of_catalog := isOf_run of remote calls steps member catalog present
  exact ⟨of_catalog.resolved, of_catalog.registered⟩

/-- Steps on two assets of a catalog and on a copy of it. -/
def pairedSteps : List Step :=
  [⟨0, .act (.batches "days" .none (some 3))⟩, ⟨0, .act (.partitionIds "days")⟩, ⟨0, .copy⟩,
    ⟨1, .act (.batches "days" .none none)⟩, ⟨0, .act (.batches "all" .none (some 1))⟩,
    ⟨0, .act (.reset "weeks")⟩, ⟨0, .act (.objects "days" none)⟩]

theorem assets_do_not_interfere_paired :
    (Script.remote.frozen doubled).IsSteady (fun _ => True) ∧
      (∀ catalog ∈ (single pair doubledSession).catalogs, catalog.IsOf paired) ∧
      0 < (single pair doubledSession).catalogs.length ∧
      List.Forall₂
        (fun taken kept =>
          Outcome.SameStream
              (fun descriptor =>
                ((Script.remote.frozen doubled).session.fetch descriptor doubledSession).1)
              taken.outcome kept.outcome ∧
            taken.fleet.cursor? 0 "days" = kept.fleet.cursor? 0 "days")
        ((run (Script.remote.frozen doubled) 2 (single pair doubledSession) pairedSteps).filter
          fun taken => taken.step.concerns 0 "days")
        (run (Script.remote.frozen doubled) 2 (single pair doubledSession)
          (Step.undisturbed 0 "days" pairedSteps)) ∧
      (run (Script.remote.frozen doubled) 2 (single pair doubledSession)
          (Step.undisturbed 0 "days" pairedSteps)).map (fun kept => kept.fleet.cursor? 0 "days") =
        [some (.ofToken "d1"), some .start] := by
  have steady := Script.remote.isSteady_frozen doubled
  have of : ∀ catalog ∈ (single pair doubledSession).catalogs, catalog.IsOf paired := by
    intro catalog member
    rw [List.mem_singleton.mp member]
    exact Catalog.isOf_ofSettings ofSettings_paired
  have there : 0 < (single pair doubledSession).catalogs.length := Nat.zero_lt_one
  obtain ⟨same, -⟩ :=
    @assets_do_not_interfere Unit _ _ paired (single pair doubledSession) 0 steady trivial of there
      "days" 2 pairedSteps
  exact ⟨steady, of, there, same, rfl⟩

end Fleet
end BucketCatalog
