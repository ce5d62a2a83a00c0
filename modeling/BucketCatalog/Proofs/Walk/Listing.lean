import BucketCatalog.Proofs.Walk.Draining

/-!
# Listings of an asset

A store that answers every token with one page gives an asset a listing: a finite chain of good
pages, each but the last with the token of the next.  A walk over a listing hands out what survives
of its pages, and one that is given up leaves its cursor at the page of the last key that it handed
out.
-/

namespace BucketCatalog

open Listing

/-- A store that no call changes. -/
def Remote.frozen {State : Type} (remote : Remote State) (state : State) : Remote Unit where
  list := fun request _ => ((remote.list request state).1, ())
  retrieve := fun bucket key _ => ((remote.retrieve bucket key state).1, ())

namespace Walk

variable {State Item : Type} {remote : Remote State} {bucket : String} {asset : Asset}
  {token : Option String} {page : Page} {pages before after : List Page} {calls count : Nat}

/-- A store answers the request for the page of a token with one page, whatever state it is in. -/
def Answers (remote : Remote State) (bucket : String) (asset : Asset) (token : Option String)
    (page : Page) : Prop :=
  ∀ request, asset.Asks bucket token request → ∀ state, (remote.list request state).1 = .ok page

theorem answers_iff :
    Answers remote bucket asset token page ↔
      ∀ state, (remote.list (asset.request bucket token) state).1 = .ok page := by
  constructor
  · exact fun answers => answers _ (asset.asks_request bucket token)
  · intro answers request asks
    rwa [asks.eq]

theorem Answers.list_eq (answers : Answers remote bucket asset token page) (state : State) :
    remote.list (asset.request bucket token) state =
      (.ok page, (remote.list (asset.request bucket token) state).2) :=
  Prod.ext (answers_iff.mp answers state) rfl

/--
The pages of an asset's listing from a token on.  They have what the asset needs, and the store
answers a token with the same page in every state.
-/
inductive IsListing (remote : Remote State) (bucket : String) (asset : Asset) :
    Option String → List Page → Prop where
  /-- There is nothing after the last page. -/
  | last {token : Option String} {page : Page} (answers : Answers remote bucket asset token page)
      (last : asset.IsLast (.ok page)) : IsListing remote bucket asset token [page]
  /-- Every other page brings the token of the next. -/
  | turn {token : Option String} {page : Page} {later : String} {pages : List Page}
      (answers : Answers remote bucket asset token page) (turns : asset.Turns page later)
      (rest : IsListing remote bucket asset (some later) pages) :
      IsListing remote bucket asset token (page :: pages)

/-- The token that the page after some pages is asked for with. -/
def tokenAfter (token : Option String) (pages : List Page) : Option String :=
  pages.foldl (fun _ page => page.nextToken) token

@[simp]
theorem tokenAfter_nil : tokenAfter token [] = token := rfl

@[simp]
theorem tokenAfter_cons (page : Page) (pages : List Page) :
    tokenAfter token (page :: pages) = tokenAfter page.nextToken pages := rfl

/-- The state of a store after pages were asked for with tokens, one after another. -/
def asked (remote : Remote State) (bucket : String) (asset : Asset) (tokens : List (Option String))
    (state : State) : State :=
  tokens.foldl (fun state token => (remote.list (asset.request bucket token) state).2) state

namespace IsListing

theorem ne_nil (listing : IsListing remote bucket asset token pages) : pages ≠ [] := by
  cases listing <;> simp

theorem answers_head (listing : IsListing remote bucket asset token (page :: pages)) :
    Answers remote bucket asset token page := by
  cases listing with
  | last answers => exact answers
  | turn answers => exact answers

theorem exists_turns (listing : IsListing remote bucket asset token (page :: pages))
    (nonempty : pages ≠ []) :
    ∃ later, asset.Turns page later ∧ IsListing remote bucket asset (some later) pages := by
  cases listing with
  | last => exact absurd rfl nonempty
  | turn answers turns rest => exact ⟨_, turns, rest⟩

/-- A listing can be entered at each of its pages. -/
theorem drop (listing : IsListing remote bucket asset token (before ++ page :: after)) :
    IsListing remote bucket asset (tokenAfter token before) (page :: after) := by
  induction before generalizing token with
  | nil => exact listing
  | cons first before ih =>
      obtain ⟨later, turns, rest⟩ := exists_turns listing (by simp)
      rw [tokenAfter_cons, turns.brings]
      exact ih rest

theorem exists_keep (listing : IsListing remote bucket asset token (page :: pages)) :
    ∃ kept, asset.keep page = .ok kept ∧ kept.keys = asset.survivors page := by
  cases listing with
  | last answers last => exact ⟨_, Asset.keep_of_last last, rfl⟩
  | turn answers turns rest => exact ⟨_, Asset.keep_of_turns turns, rfl⟩

/-- A walk that wants more than the listing has hands out what survives of all pages. -/
theorem run_eq (listing : IsListing remote bucket asset token pages) (make : String → Item)
    {wanted : Option Nat} (more : WantsMore wanted (pages.flatMap asset.survivors).length)
    (enough : pages.length ≤ calls) (state : State) :
    (run remote bucket asset (making make) calls wanted token state).1 =
      ⟨(pages.flatMap asset.survivors).map make, .done, .start⟩ := by
  induction listing generalizing wanted calls state with
  | last answers last =>
      obtain ⟨calls, rfl⟩ := Nat.exists_eq_add_one_of_ne_zero (Nat.ne_zero_of_lt enough)
      have answered := answers.list_eq state
      rw [run_of_last make answered last (by simpa using more)]
      simp
  | @turn token page later pages answers turns rest ih =>
      obtain ⟨calls, rfl⟩ := Nat.exists_eq_add_one_of_ne_zero (Nat.ne_zero_of_lt enough)
      have answered := answers.list_eq state
      have few : pages.length ≤ calls := by simpa using enough
      rw [List.flatMap_cons, List.length_append] at more
      have more_than_page : WantsMore wanted (asset.survivors page).length := fun limit given =>
        Nat.lt_of_le_of_lt (Nat.le_add_right _ _) (more limit given)
      have more_left : WantsMore (wanted.map fun limit => limit - (asset.survivors page).length)
          (pages.flatMap asset.survivors).length := by
        intro left left_eq
        obtain ⟨limit, given, rfl⟩ := Option.map_eq_some_iff.mp left_eq
        have := more limit given
        omega
      rw [run_of_turns make answered turns more_than_page, Walked.prepend, ih more_left few]
      simp

/-- A walk that is given up has asked for the pages up to the one that its last key is on, and its
cursor names that page. -/
theorem run_take (listing : IsListing remote bucket asset token (before ++ page :: after))
    (make : String → Item) (short : (before.flatMap asset.survivors).length < count)
    (reached : count ≤ ((before ++ [page]).flatMap asset.survivors).length)
    (enough : before.length < calls) (state : State) :
    run remote bucket asset (making make) calls (some count) token state =
      (⟨(((before ++ page :: after).flatMap asset.survivors).take count).map make, .stopped,
          ⟨tokenAfter token before⟩⟩,
        asked remote bucket asset (token :: before.map Page.nextToken) state) := by
  induction before generalizing token count calls state with
  | nil =>
      obtain ⟨calls, rfl⟩ := Nat.exists_eq_add_one_of_ne_zero (Nat.ne_zero_of_lt enough)
      obtain ⟨kept, keeps, keys_eq⟩ := exists_keep listing
      have answered := (answers_head listing).list_eq state
      have on_page : count ≤ (asset.survivors page).length := by simpa using reached
      rw [run_of_reached make answered keeps short (keys_eq ▸ on_page), keys_eq]
      simp [asked, List.take_append_of_le_length on_page]
  | cons first before ih =>
      obtain ⟨calls, rfl⟩ := Nat.exists_eq_add_one_of_ne_zero (Nat.ne_zero_of_lt enough)
      obtain ⟨later, turns, rest⟩ := exists_turns listing (by simp)
      have answered := (answers_head listing).list_eq state
      simp only [List.cons_append, List.flatMap_cons, List.length_append] at short reached ⊢
      have more : WantsMore (some count) (asset.survivors first).length := by
        rintro _ ⟨⟩
        omega
      -- The walk goes on after the first page with as many keys fewer wanted.
      have short_rest : (before.flatMap asset.survivors).length <
          count - (asset.survivors first).length := by
        omega
      have tail := ih rest short_rest (by omega) (by simpa using enough)
        (remote.list (asset.request bucket token) state).2
      have taken : (asset.survivors first).take count = asset.survivors first :=
        List.take_of_length_le (by omega)
      rw [run_of_turns make answered turns more, Option.map_some, tail]
      simp [Walked.prepend, List.take_append, taken, turns.brings, asked]

end IsListing

/-- Three pages of objects; nothing of the second survives, and neither the empty object nor the
token of the third is of use. -/
def shelves : List Page :=
  [⟨some [⟨"a", 1⟩, ⟨"b", 1⟩], none, true, some "b"⟩,
    ⟨some [⟨"c", 1⟩], some ["ca/"], true, some "ca/"⟩,
    ⟨some [⟨"da", 1⟩, ⟨"ea", 0⟩, ⟨"fa", 2⟩], none, false, some "fa"⟩]

/-- A store that answers their tokens with these pages. -/
def shelved : Script where
  pages := [none, some "b", some "ca/"].zip (shelves.map Except.ok)
  objects := []

theorem isListing_shelves :
    IsListing (Script.remote.frozen shelved) "b" letters Cursor.start.token shelves :=
  .turn (answers_iff.mpr fun _ => rfl) ⟨rfl, rfl, rfl⟩
    (.turn (answers_iff.mpr fun _ => rfl) ⟨rfl, rfl, rfl⟩
      (.last (answers_iff.mpr fun _ => rfl) ⟨_, rfl, rfl, rfl⟩))

theorem survivors_shelves : shelves.flatMap letters.survivors = ["a", "da", "fa"] := by
  decide +kernel

end Walk
end BucketCatalog
