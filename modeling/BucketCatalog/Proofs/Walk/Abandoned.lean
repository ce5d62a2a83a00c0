import BucketCatalog.Proofs.Walk.Listing
import Mathlib.Tactic.ByContra

/-!
# Passes that are given up

A reader may give up a pass after any number of keys.  By then the pass has asked for the page of
its last key and for none after it, and its cursor names that page, so that the next pass hands out
the page again from its beginning.  The induction over several passes carries the part of the
listing from the cursor on: it is a listing itself.
-/

namespace BucketCatalog

open Listing

namespace Walk

variable {State : Type} {remote : Remote State} {bucket : String} {asset : Asset}
  {token : Option String} {pages : List Page} {calls : Nat}

/-- Passes through one cursor that are given up after as many keys as told, and the pass after them
that hands out everything. -/
def resume (remote : Remote State) (bucket : String) (asset : Asset) (calls : Nat) :
    List Nat → Cursor → State → List (Walked String) × Walked String
  | [], cursor, state => ([], (run remote bucket asset key calls none cursor.token state).1)
  | count :: counts, cursor, state =>
      let (walked, state) := run remote bucket asset key calls (some count) cursor.token state
      let (abandoned, full) := resume remote bucket asset calls counts walked.cursor state
      (walked :: abandoned, full)

/-- The keys of a pass that was given up: those that no pass after it hands out again, and the first
ones of the page that its cursor names. -/
structure HandsOver (remote : Remote State) (bucket : String) (asset : Asset)
    (walked : Walked String) (settled again : List String) : Prop where
  /-- The pass hands out both. -/
  items : walked.items = settled ++ again
  /-- Only keys of the page that the next pass asks for are handed out again. -/
  page : ∃ page, Answers remote bucket asset walked.cursor.token page ∧
    again <+: asset.survivors page

theorem Answers.transcribed {page : Page} (answers : Answers remote bucket asset token page) :
    Answers remote.transcribed bucket asset token page :=
  fun request asks state => answers request asks state.store

theorem IsListing.transcribed (listing : IsListing remote bucket asset token pages) :
    IsListing remote.transcribed bucket asset token pages := by
  induction listing with
  | last answers last => exact .last answers.transcribed last
  | turn answers turns rest ih => exact .turn answers.transcribed turns ih

/-- Each token is asked for once, in order. -/
theorem requests_asked_transcribed (tokens : List (Option String)) (state : Transcribed State) :
    (asked remote.transcribed bucket asset tokens state).exchanges.map Exchange.request =
      state.exchanges.map Exchange.request ++ tokens.map (asset.request bucket) := by
  induction tokens generalizing state with
  | nil => simp [asked]
  | cons token tokens ih =>
      rw [asked, List.foldl_cons, ← asked, ih]
      simp [Remote.transcribed]

theorem asks_requests (asset : Asset) (bucket : String) (tokens : List (Option String)) :
    List.Forall₂ (asset.Asks bucket) tokens (tokens.map (asset.request bucket)) :=
  List.forall₂_map_right_iff.mpr
    (List.forall₂_same.mpr fun token _ => asset.asks_request bucket token)

/-- The page that a number of keys ends on. -/
theorem exists_page_of_count (asset : Asset) {count : Nat} (positive : 0 < count)
    (bound : count ≤ (pages.flatMap asset.survivors).length) :
    ∃ before page after, pages = before ++ page :: after ∧
      (before.flatMap asset.survivors).length < count ∧
        count ≤ ((before ++ [page]).flatMap asset.survivors).length := by
  induction pages generalizing count with
  | nil => simp at bound; omega
  | cons page pages ih =>
      by_cases on_page : count ≤ (asset.survivors page).length
      · exact ⟨[], page, pages, rfl, by simpa using positive, by simpa using on_page⟩
      · rw [List.flatMap_cons, List.length_append] at bound
        have some_left : 0 < count - (asset.survivors page).length := by omega
        obtain ⟨before, other, after, rfl, short, reached⟩ := ih some_left (by omega)
        refine ⟨page :: before, other, after, rfl, ?_, ?_⟩
        · rw [List.flatMap_cons, List.length_append]
          omega
        · rw [List.cons_append, List.flatMap_cons, List.length_append]
          omega

theorem IsListing.le_of_stopped (listing : IsListing remote bucket asset token pages)
    (enough : pages.length ≤ calls) {count : Nat} {state : State}
    (stopped : (run remote bucket asset key calls (some count) token state).1.ending = .stopped) :
    count ≤ (pages.flatMap asset.survivors).length := by
  by_contra more
  have wants_more : WantsMore (some count) (pages.flatMap asset.survivors).length := by
    rintro _ ⟨⟩
    exact Nat.lt_of_not_le more
  rw [key_eq_making, listing.run_eq id wants_more enough] at stopped
  simp at stopped

/-- A pass that was given up has handed out what survives of some pages and the first keys of the
page after them, which its cursor names. -/
theorem IsListing.run_of_stopped (listing : IsListing remote bucket asset token pages)
    (enough : pages.length ≤ calls) {count : Nat} {state : State}
    (stopped : (run remote bucket asset key calls (some count) token state).1.ending = .stopped) :
    ∃ before page after again next, pages = before ++ page :: after ∧
      again <+: asset.survivors page ∧
        run remote bucket asset key calls (some count) token state =
          (⟨before.flatMap asset.survivors ++ again, .stopped, ⟨tokenAfter token before⟩⟩,
            next) := by
  have bound := listing.le_of_stopped enough stopped
  rcases Nat.eq_zero_or_pos count with rfl | positive
  · obtain ⟨page, after, rfl⟩ := List.exists_cons_of_ne_nil listing.ne_nil
    exact ⟨[], page, after, [], state, rfl, List.nil_prefix, run_zero state⟩
  · obtain ⟨before, page, after, rfl, short, reached⟩ := exists_page_of_count asset positive bound
    have few : before.length < calls := by
      rw [List.length_append, List.length_cons] at enough
      omega
    let again := (asset.survivors page).take (count - (before.flatMap asset.survivors).length)
    have on_page : count - (before.flatMap asset.survivors).length ≤
        (asset.survivors page).length := by
      rw [List.flatMap_append, List.length_append, List.flatMap_singleton] at reached
      omega
    have cut : ((before ++ page :: after).flatMap asset.survivors).take count =
        before.flatMap asset.survivors ++ again := by
      rw [List.flatMap_append, List.flatMap_cons, List.take_append,
        List.take_of_length_le (Nat.le_of_lt short), List.take_append_of_le_length on_page]
    refine ⟨before, page, after, again,
      asked remote bucket asset (token :: before.map Page.nextToken) state, rfl,
      List.take_prefix _ _, ?_⟩
    rw [key_eq_making, listing.run_take id short reached few, List.map_id, cut]

/-- Leaving out the keys that are handed out again, abandoned passes and the one after them hand out
everything once. -/
theorem IsListing.resume_eq (listing : IsListing remote bucket asset token pages)
    (enough : pages.length ≤ calls) (counts : List Nat) (state : State)
    (stopped : ∀ walked ∈ (resume remote bucket asset calls counts ⟨token⟩ state).1,
      walked.ending = .stopped) :
    ∃ parts : List (List String × List String),
      List.Forall₂ (fun walked part => HandsOver remote bucket asset walked part.1 part.2)
          (resume remote bucket asset calls counts ⟨token⟩ state).1 parts ∧
        parts.flatMap Prod.fst ++ (resume remote bucket asset calls counts ⟨token⟩ state).2.items =
          pages.flatMap asset.survivors ∧
        (resume remote bucket asset calls counts ⟨token⟩ state).2.ending = .done ∧
        (resume remote bucket asset calls counts ⟨token⟩ state).2.cursor = .start := by
  induction counts generalizing token pages state with
  | nil =>
      have full := listing.run_eq id (wantsMore_none _) enough state
      rw [← key_eq_making, List.map_id] at full
      exact ⟨[], .nil, by simp [resume, full], by simp [resume, full], by simp [resume, full]⟩
  | cons count counts ih =>
      rw [resume] at stopped ⊢
      obtain ⟨stopped_first, stopped_later⟩ := List.forall_mem_cons.mp stopped
      obtain ⟨before, page, after, again, next, rfl, again_prefix, taken⟩ :=
        listing.run_of_stopped enough stopped_first
      simp only [taken] at stopped_later ⊢
      have few : (page :: after).length ≤ calls := by
        rw [List.length_append] at enough
        omega
      -- What the next pass meets is a listing again, from the page that this one was given up on.
      obtain ⟨parts, handed, delivered, done, start⟩ := ih listing.drop few next stopped_later
      refine ⟨(before.flatMap asset.survivors, again) :: parts, .cons ⟨rfl, page, ?_, ?_⟩ handed,
        ?_, done, start⟩
      · exact listing.drop.answers_head
      · exact again_prefix
      · rw [List.flatMap_cons, List.append_assoc, delivered, List.flatMap_append]

/--
A reader who gives up a pass after a number of keys has made one call for each page up to the one
of the last key, and the cursor names that page: a pass from there hands out what survives of it and
of all pages after it.  Without a key wanted there is no call, and the cursor stays.  However many
passes are given up before one is not, together they skip no key, and what they hand out again are
keys of the pages that they were given up on.
-/
theorem abandoned_passes_resume {cursor : Cursor}
    (listing : IsListing remote bucket asset cursor.token pages) (enough : pages.length ≤ calls)
    (store : State) :
    ((run remote bucket asset key calls (some 0) cursor.token store).1 = ⟨[], .stopped, cursor⟩ ∧
        (run remote.transcribed bucket asset key calls (some 0) cursor.token
          (.ofStore store)).2.exchanges = []) ∧
      (∀ count, 0 < count → count ≤ (pages.flatMap asset.survivors).length →
        ∃ before page after, pages = before ++ page :: after ∧
          (before.flatMap asset.survivors).length < count ∧
          count ≤ ((before ++ [page]).flatMap asset.survivors).length ∧
          (run remote bucket asset key calls (some count) cursor.token store).1 =
            ⟨(pages.flatMap asset.survivors).take count, .stopped,
              ⟨tokenAfter cursor.token before⟩⟩ ∧
          List.Forall₂ (asset.Asks bucket) (cursor.token :: before.map Page.nextToken)
            ((run remote.transcribed bucket asset key calls (some count) cursor.token
              (.ofStore store)).2.exchanges.map Exchange.request) ∧
          ∀ later, (run remote bucket asset key calls none (tokenAfter cursor.token before)
              later).1 =
            ⟨(page :: after).flatMap asset.survivors, .done, .start⟩) ∧
      ∀ counts,
        (∀ walked ∈ (resume remote bucket asset calls counts cursor store).1,
          walked.ending = .stopped) →
        ∃ parts : List (List String × List String),
          List.Forall₂ (fun walked part => HandsOver remote bucket asset walked part.1 part.2)
              (resume remote bucket asset calls counts cursor store).1 parts ∧
            parts.flatMap Prod.fst ++
                (resume remote bucket asset calls counts cursor store).2.items =
              pages.flatMap asset.survivors ∧
            (resume remote bucket asset calls counts cursor store).2.ending = .done ∧
            (resume remote bucket asset calls counts cursor store).2.cursor = .start := by
  refine ⟨⟨by rw [run_zero], by rw [run_zero]; rfl⟩, ?_, fun counts stopped =>
    listing.resume_eq enough counts store stopped⟩
  intro count positive bound
  obtain ⟨before, page, after, rfl, short, reached⟩ := exists_page_of_count asset positive bound
  have few : before.length < calls := by
    rw [List.length_append, List.length_cons] at enough
    omega
  have few_left : (page :: after).length ≤ calls := by
    rw [List.length_append] at enough
    omega
  refine ⟨before, page, after, rfl, short, reached, ?_, ?_, fun later => ?_⟩
  · rw [key_eq_making, listing.run_take id short reached few, List.map_id]
  · rw [key_eq_making, listing.transcribed.run_take id short reached few,
      requests_asked_transcribed]
    exact asks_requests asset bucket _
  · rw [key_eq_making, listing.drop.run_eq id (wantsMore_none _) few_left, List.map_id]

theorem abandoned_passes_resume_shelved :
    IsListing (Script.remote.frozen shelved) "b" letters Cursor.start.token shelves ∧
      shelves.length ≤ 3 ∧
      (∃ before page after, shelves = before ++ page :: after ∧
        (before.flatMap letters.survivors).length < 2 ∧
        2 ≤ ((before ++ [page]).flatMap letters.survivors).length ∧
        (run (Script.remote.frozen shelved) "b" letters key 3 (some 2) Cursor.start.token ()).1 =
          ⟨["a", "da"], .stopped, ⟨tokenAfter Cursor.start.token before⟩⟩) ∧
      ∃ parts : List (List String × List String),
        List.Forall₂ (fun walked part =>
            HandsOver (Script.remote.frozen shelved) "b" letters walked part.1 part.2)
          (resume (Script.remote.frozen shelved) "b" letters 3 [2, 0, 1] .start ()).1 parts ∧
          parts.flatMap Prod.fst ++
              (resume (Script.remote.frozen shelved) "b" letters 3 [2, 0, 1] .start ()).2.items =
            ["a", "da", "fa"] := by
  have enough : shelves.length ≤ 3 := Nat.le_refl 3
  obtain ⟨-, taken, resumed⟩ :=
    @abandoned_passes_resume _ _ _ _ _ 3 .start isListing_shelves enough ()
  have abandoned : (resume (Script.remote.frozen shelved) "b" letters 3 [2, 0, 1] .start ()).1 =
      [⟨["a", "da"], .stopped, .ofToken "ca/"⟩, ⟨[], .stopped, .ofToken "ca/"⟩,
        ⟨["da"], .stopped, .ofToken "ca/"⟩] := by
    rfl
  have stopped : ∀ walked ∈
      (resume (Script.remote.frozen shelved) "b" letters 3 [2, 0, 1] .start ()).1,
      walked.ending = .stopped := by
    rw [abandoned]
    simp
  obtain ⟨before, page, after, cut, short, reached, walked, -⟩ :=
    taken 2 (by decide) (by rw [survivors_shelves]; decide)
  obtain ⟨parts, handed, delivered, -⟩ := resumed [2, 0, 1] stopped
  rw [survivors_shelves] at walked delivered
  exact ⟨isListing_shelves, enough, ⟨before, page, after, cut, short, reached, walked⟩,
    parts, handed, delivered⟩

end Walk
end BucketCatalog
