import BucketCatalog.Proofs.Catalog

/-!
# Walks within a session

Items are made while pages are read, each when its turn comes.  Where making them does not concern
the store, it makes no difference when that happens: a walk within a session comes to the same as
the walk over its store alone, followed by making the items of all keys that it handed out.
-/

namespace BucketCatalog

variable {State Item : Type}

namespace Walk

/-- The items of keys, made one after another. -/
def makeAll (act : String → State → Item × State) : List String → State → List Item × State
  | [], state => ([], state)
  | key :: keys, state =>
      ((act key state).1 :: (makeAll act keys (act key state).2).1,
        (makeAll act keys (act key state).2).2)

variable {act : String → State → Item × State}

theorem makeAll_append (first second : List String) (state : State) :
    makeAll act (first ++ second) state =
      ((makeAll act first state).1 ++ (makeAll act second (makeAll act first state).2).1,
        (makeAll act second (makeAll act first state).2).2) := by
  induction first generalizing state with
  | nil => rfl
  | cons key first ih => simp [makeAll, ih]

/-- What is handed out are the items of some of the keys; which of them depends on the keys alone. -/
theorem handOut_eq_makeAll (act : String → State → Item × State) (wanted : Option Nat)
    (keys : List String) (state : State) :
    ∃ handed left,
      (∀ {Other : Type} (other : Other), handOut key wanted keys other = (handed, left, other)) ∧
        handOut act wanted keys state =
          ((makeAll act handed state).1, left, (makeAll act handed state).2) := by
  induction keys generalizing wanted state with
  | nil => exact ⟨[], wanted, fun _ => by simp [handOut], by simp [handOut, makeAll]⟩
  | cons first keys ih =>
      by_cases none_wanted : wanted = some 0
      · exact ⟨[], some 0, fun _ => by simp [handOut, none_wanted],
          by simp [handOut, makeAll, none_wanted]⟩
      · obtain ⟨handed, left, keys_eq, items_eq⟩ :=
          ih (wanted.map fun count => count - 1) (act first state).2
        refine ⟨first :: handed, left, fun _ => ?_, ?_⟩
        · rw [handOut]
          · simp [keys_eq, key]
          · exact none_wanted
        · rw [handOut]
          · simp [items_eq, makeAll]
          · exact none_wanted

end Walk

/-- Making an item neither sees nor changes the store of the session. -/
def Session.IsAside (act : String → Session State → Item × Session State) : Prop :=
  ∀ key session store, act key { session with store := store } =
    ((act key session).1, { (act key session).2 with store := store })

namespace Walk

variable {act : String → Session State → Item × Session State}

theorem makeAll_of_aside (aside : Session.IsAside act) (keys : List String)
    (session : Session State) (store : State) :
    makeAll act keys { session with store := store } =
      ((makeAll act keys session).1, { (makeAll act keys session).2 with store := store }) := by
  induction keys generalizing session with
  | nil => rfl
  | cons key keys ih => simp only [makeAll, aside key session store, ih]

theorem readPage_session (remote : Remote State) (bucket : String) (asset : Asset)
    (token : Option String) (session : Session State) :
    asset.readPage remote.session bucket token session =
      ((asset.readPage remote bucket token session.store).1,
        { session with store := (asset.readPage remote bucket token session.store).2 }) := by
  cases answered : remote.list (asset.request bucket token) session.store with
  | mk answer store =>
      simp only [Asset.readPage, Remote.session, answered]
      cases answer <;> rfl

/-- A walk whose items are made aside is the walk over the store alone, and then all its items. -/
theorem run_of_aside (aside : Session.IsAside act) (remote : Remote State) (bucket : String)
    (asset : Asset) (calls : Nat) (wanted : Option Nat) (token : Option String)
    (session : Session State) :
    let walk := run remote bucket asset key calls wanted token session.store
    run remote.session bucket asset act calls wanted token session =
      (⟨(makeAll act walk.1.items session).1, walk.1.ending, walk.1.cursor⟩,
        { (makeAll act walk.1.items session).2 with store := walk.2 }) := by
  induction calls generalizing wanted token session with
  | zero =>
      by_cases none_wanted : wanted = some 0
      · rw [none_wanted, run_zero, run_zero]
        rfl
      · rw [run, run]
        · rfl
        · exact none_wanted
        · exact none_wanted
  | succ calls ih =>
      by_cases none_wanted : wanted = some 0
      · rw [none_wanted, run_zero, run_zero]
        rfl
      simp only [run, readPage_session]
      cases asset.readPage remote bucket token session.store with
      | mk result store =>
          cases result with
          | error fault => rfl
          | ok page =>
              obtain ⟨handed, left, keys_eq, items_eq⟩ :=
                handOut_eq_makeAll act wanted page.keys { session with store := store }
              rw [makeAll_of_aside aside] at items_eq
              simp only [keys_eq, items_eq]
              rcases left with _ | _ | count
              case some.zero => rfl
              all_goals
                cases page.nextToken with
                | none => rfl
                | some later =>
                    simp only [ih, Walked.prepend, makeAll_append]
                    rw [makeAll_of_aside aside _ (makeAll act handed session).2 store]

end Walk

/-- The ids of keys are made aside. -/
theorem Catalog.identified_isAside (asset : Asset) :
    Session.IsAside (@Catalog.identified State asset) :=
  fun _ _ _ => rfl

end BucketCatalog
