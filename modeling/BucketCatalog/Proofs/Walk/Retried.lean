import BucketCatalog.Proofs.Walk.Listing
import Mathlib.Data.Set.Finite.Lattice

/-!
# Listings that are interrupted

A store may fail at any of its calls.  A reader who starts a new pass through the same cursor after
each failure still gets everything once, as soon as the failures end: the cursor of a failed pass
names the page that could not be read, and everything before that page was handed out.
-/

namespace BucketCatalog

open Listing

/-- A store with the number of the listing calls made to it. -/
structure Interrupted (State : Type) where
  /-- The state of the store. -/
  store : State
  /-- The number of calls. -/
  made : Nat

/-- A remote store some of whose listing calls fail, each by its number; the others reach it. -/
def Remote.interrupted {State : Type} (remote : Remote State)
    (failures : Nat → Option StoreFailure) : Remote (Interrupted State) where
  list := fun request state =>
    match failures state.made with
    | some failure => (.error failure, { state with made := state.made + 1 })
    | none =>
        let (answer, store) := remote.list request state.store
        (answer, ⟨store, state.made + 1⟩)
  retrieve := fun bucket key state =>
    let (answer, store) := remote.retrieve bucket key state.store
    (answer, { state with store := store })

namespace Walk

variable {State Item : Type} {remote : Remote State} {bucket : String} {asset : Asset}
  {failures : Nat → Option StoreFailure} {token : Option String} {pages : List Page} {calls : Nat}

/-- Passes through one cursor, a new one after each that fails, and at most `passes` of them. -/
def retry (remote : Remote State) (bucket : String) (asset : Asset)
    (act : String → State → Item × State) (calls : Nat) :
    Nat → Cursor → State → List (Walked Item) × State
  | 0, _, state => ([], state)
  | passes + 1, cursor, state =>
      let (walked, state) := run remote bucket asset act calls none cursor.token state
      match walked.ending with
      | .failed _ =>
          let (later, state) := retry remote bucket asset act calls passes walked.cursor state
          (walked :: later, state)
      | _ => ([walked], state)

section Retry

variable {act : String → State → Item × State} {passes : Nat} {cursor : Cursor} {state next : State}
  {walked : Walked Item}

theorem retry_of_done (ended : run remote bucket asset act calls none cursor.token state =
      (walked, next)) (done : walked.ending = .done) :
    retry remote bucket asset act calls (passes + 1) cursor state = ([walked], next) := by
  simp only [retry, ended, done]

theorem retry_of_failed {fault : Fault}
    (ended : run remote bucket asset act calls none cursor.token state = (walked, next))
    (failed : walked.ending = .failed fault) :
    retry remote bucket asset act calls (passes + 1) cursor state =
      (walked :: (retry remote bucket asset act calls passes walked.cursor next).1,
        (retry remote bucket asset act calls passes walked.cursor next).2) := by
  simp only [retry, ended, failed]

end Retry

theorem list_interrupted_of_failure {request : Request} {state : Interrupted State}
    {failure : StoreFailure} (fails : failures state.made = some failure) :
    (remote.interrupted failures).list request state =
      (.error failure, { state with made := state.made + 1 }) := by
  simp only [Remote.interrupted, fails]

theorem list_interrupted {request : Request} {state : Interrupted State}
    {answer : Except StoreFailure Page} (answers : ∀ store, (remote.list request store).1 = answer)
    (works : failures state.made = none) :
    (remote.interrupted failures).list request state =
      (answer, ⟨(remote.list request state.store).2, state.made + 1⟩) := by
  simp only [Remote.interrupted, works, answers]

/-- A pass over an interrupted listing comes to its end, or it meets a failure and its cursor names
the first page that it has not handed out. -/
theorem IsListing.run_interrupted (listing : IsListing remote bucket asset token pages)
    (failures : Nat → Option StoreFailure) (make : String → Item) (enough : pages.length ≤ calls)
    (state : Interrupted State) :
    (∃ next, run (remote.interrupted failures) bucket asset (making make) calls none token state =
        (⟨(pages.flatMap asset.survivors).map make, .done, .start⟩, next)) ∨
      ∃ before page after failure call next, pages = before ++ page :: after ∧
        state.made ≤ call ∧ failures call = some failure ∧
        run (remote.interrupted failures) bucket asset (making make) calls none token state =
          (⟨(before.flatMap asset.survivors).map make, .failed (.store failure),
              ⟨tokenAfter token before⟩⟩, ⟨next, call + 1⟩) := by
  induction listing generalizing calls state with
  | last answers last =>
      obtain ⟨calls, rfl⟩ := Nat.exists_eq_add_one_of_ne_zero (Nat.ne_zero_of_lt enough)
      cases attempt : failures state.made with
      | some failure =>
          exact .inr ⟨[], _, [], failure, state.made, state.store, rfl, le_rfl, attempt,
            run_of_failure make (list_interrupted_of_failure attempt) calls⟩
      | none =>
          have answered := list_interrupted (answers_iff.mp answers) attempt
          exact .inl ⟨_, by
            rw [run_of_last make answered last (wantsMore_none _), List.flatMap_singleton]⟩
  | @turn token page later pages answers turns rest ih =>
      obtain ⟨calls, rfl⟩ := Nat.exists_eq_add_one_of_ne_zero (Nat.ne_zero_of_lt enough)
      cases attempt : failures state.made with
      | some failure =>
          exact .inr ⟨[], page, pages, failure, state.made, state.store, rfl, le_rfl, attempt,
            run_of_failure make (list_interrupted_of_failure attempt) calls⟩
      | none =>
          have answered := list_interrupted (answers_iff.mp answers) attempt
          rw [run_of_turns make answered turns (wantsMore_none _), Option.map_none]
          let later_state : Interrupted State :=
            ⟨(remote.list (asset.request bucket token) state.store).2, state.made + 1⟩
          obtain ⟨next, ended⟩ |
            ⟨before, other, after, failure, call, next, rfl, made, fails, ended⟩ :=
            ih (by simpa using enough) later_state
          · exact .inl ⟨next, by simp [ended, later_state, Walked.prepend]⟩
          · refine .inr ⟨page :: before, other, after, failure, call, next, rfl,
              Nat.le_of_succ_le made, fails, ?_⟩
            simp [ended, later_state, Walked.prepend, turns.brings]

/-- Once the failures end a reader who starts anew after each of them comes to the end, and the
passes together hand out what survives of all pages. -/
theorem IsListing.retry_eq (listing : IsListing remote bucket asset token pages)
    (make : String → Item) (enough : pages.length ≤ calls) {bound : Nat}
    (works : ∀ call, bound ≤ call → failures call = none) {passes : Nat}
    (state : Interrupted State) (many : bound - state.made < passes) :
    ∃ failed last,
      (retry (remote.interrupted failures) bucket asset (making make) calls passes ⟨token⟩
            state).1 = failed ++ [last] ∧
        (∀ walked ∈ failed, ∃ failure, walked.ending = .failed (.store failure)) ∧
        last.ending = .done ∧ last.cursor = .start ∧
        (failed ++ [last]).flatMap Walked.items = (pages.flatMap asset.survivors).map make := by
  induction passes generalizing token pages state with
  | zero => simp at many
  | succ passes ih =>
      obtain ⟨next, ended⟩ | ⟨before, page, after, failure, call, next, rfl, made, fails, ended⟩ :=
        listing.run_interrupted failures make enough state
      · refine ⟨[], ⟨(pages.flatMap asset.survivors).map make, .done, .start⟩, ?_, by simp, rfl,
          rfl, by simp⟩
        rw [retry_of_done ended rfl, List.nil_append]
      · have early : call < bound := by
          by_contra late
          simp [works call (not_lt.mp late)] at fails
        -- The failed call is made, so that fewer calls are left that can fail.
        have enough_left : (page :: after).length ≤ calls := by
          rw [List.length_append] at enough
          omega
        have many_left : bound - (call + 1) < passes := by omega
        obtain ⟨failed, last, retried, all_failed, done, start, delivered⟩ :=
          ih listing.drop enough_left ⟨next, call + 1⟩ many_left
        let walked : Walked Item :=
          ⟨(before.flatMap asset.survivors).map make, .failed (.store failure),
            ⟨tokenAfter token before⟩⟩
        refine ⟨walked :: failed, last, ?_, ?_, done, start, ?_⟩
        · rw [retry_of_failed ended rfl, retried, List.cons_append]
        · exact List.forall_mem_cons.mpr ⟨⟨failure, rfl⟩, all_failed⟩
        · rw [List.cons_append, List.flatMap_cons, delivered, List.flatMap_append, List.map_append]

/--
If finitely many calls fail, passes that are started anew after each failure come to an end, however
often they may be started and however many pages each may read more than the listing has.  All of
them fail in the store but the last, which is done and leaves the cursor at the beginning, and
together they hand out what survives of the listing once and in its order.
-/
theorem retry_hands_out_once (listing : IsListing remote bucket asset Cursor.start.token pages)
    (finite : Set.Finite {call | failures call ≠ none}) (make : String → Item) (store : State) :
    ∃ enough, ∀ passes, enough ≤ passes → ∀ calls, pages.length ≤ calls →
      ∃ failed last,
        (retry (remote.interrupted failures) bucket asset (making make) calls passes .start
            ⟨store, 0⟩).1 = failed ++ [last] ∧
          (∀ walked ∈ failed, ∃ failure, walked.ending = .failed (.store failure)) ∧
          last.ending = .done ∧ last.cursor = .start ∧
          (failed ++ [last]).flatMap Walked.items = (pages.flatMap asset.survivors).map make := by
  obtain ⟨bound, bounds⟩ := finite.bddAbove
  refine ⟨bound + 2, fun passes many calls enough => ?_⟩
  have works : ∀ call, bound + 1 ≤ call → failures call = none := by
    intro call late
    by_contra fails
    have := bounds fails
    omega
  exact listing.retry_eq make enough works ⟨store, 0⟩ (by omega)

/-- The second and the third call fail. -/
def twice (call : Nat) : Option StoreFailure :=
  if call = 1 ∨ call = 2 then some Script.noPage else none

theorem retry_hands_out_once_shelved :
    IsListing (Script.remote.frozen shelved) "b" letters Cursor.start.token shelves ∧
      Set.Finite {call | twice call ≠ none} ∧
      ∃ enough, ∀ passes, enough ≤ passes → ∀ calls, 3 ≤ calls →
        ∃ failed last,
          (retry ((Script.remote.frozen shelved).interrupted twice) "b" letters (making id) calls
              passes .start ⟨(), 0⟩).1 = failed ++ [last] ∧
            (∀ walked ∈ failed, ∃ failure, walked.ending = .failed (.store failure)) ∧
            last.ending = .done ∧ last.cursor = .start ∧
            (failed ++ [last]).flatMap Walked.items = ["a", "da", "fa"] := by
  have finite : Set.Finite {call | twice call ≠ none} := by
    refine Set.Finite.subset (Set.toFinite {1, 2}) fun call fails => ?_
    have early : call = 1 ∨ call = 2 := by
      by_contra later
      exact fails (if_neg later)
    exact early
  have law := retry_hands_out_once isListing_shelves finite id ()
  rw [survivors_shelves] at law
  exact ⟨isListing_shelves, finite, law⟩

end Walk
end BucketCatalog
