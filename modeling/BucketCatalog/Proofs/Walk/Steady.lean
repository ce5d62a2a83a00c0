import BucketCatalog.Proofs.Walk.Listing
import BucketCatalog.Session

/-!
# Walks over a steady store

The answers of a steady store depend on the request alone.  What a walk over it hands out is made
from the keys of one walk over the store as it is, so that two walks differ only in what they make
of a key.
-/

namespace BucketCatalog

open Listing

variable {State : Type}

/-- A store whose listings depend on the request alone, in the states that listing leads to. -/
structure Remote.ListsSteadily (remote : Remote State) (settled : State → Prop) : Prop where
  /-- Two states answer the same. -/
  list : ∀ request first second, settled first → settled second →
    (remote.list request first).1 = (remote.list request second).1
  /-- Listing leads from one such state to another. -/
  listed : ∀ request state, settled state → settled (remote.list request state).2

/-- A store all of whose answers depend on the request alone. -/
structure Remote.IsSteady (remote : Remote State) (settled : State → Prop) : Prop
    extends remote.ListsSteadily settled where
  /-- Two states answer the same. -/
  retrieve : ∀ name key first second, settled first → settled second →
    (remote.retrieve name key first).1 = (remote.retrieve name key second).1
  /-- Retrieving leads from one such state to another. -/
  retrieved : ∀ name key state, settled state → settled (remote.retrieve name key state).2

theorem Remote.isSteady_frozen (remote : Remote State) (state : State) :
    (remote.frozen state).IsSteady fun _ => True where
  list := fun _ _ _ _ _ => rfl
  listed := fun _ _ _ => trivial
  retrieve := fun _ _ _ _ _ _ => rfl
  retrieved := fun _ _ _ _ => trivial

/-- What is made from the items of a walk. -/
def Walked.map {Item Other : Type} (make : Item → Other) (walked : Walked Item) : Walked Other where
  items := walked.items.map make
  ending := walked.ending
  cursor := walked.cursor

@[simp]
theorem Walked.map_map {Item Other Third : Type} (make : Item → Other) (change : Other → Third)
    (walked : Walked Item) : (walked.map make).map change = walked.map (change ∘ make) := by
  simp [Walked.map]

/-- A session asks its store and changes nothing else. -/
theorem Remote.ListsSteadily.session {remote : Remote State} {settled : State → Prop}
    (steady : remote.ListsSteadily settled) (holds : Clock → Prop) :
    remote.session.ListsSteadily fun session => settled session.store ∧ holds session.clock where
  list := fun request first second first_settled second_settled =>
    steady.list request first.store second.store first_settled.1 second_settled.1
  listed := fun request session session_settled =>
    ⟨steady.listed request session.store session_settled.1, session_settled.2⟩

theorem Remote.IsSteady.session {remote : Remote State} {settled : State → Prop}
    (steady : remote.IsSteady settled) :
    remote.session.IsSteady fun session => settled session.store where
  list := fun request first second => steady.list request first.store second.store
  listed := fun request session => steady.listed request session.store
  retrieve := fun name key first second => steady.retrieve name key first.store second.store
  retrieved := fun name key session => steady.retrieved name key session.store

namespace Walk

variable {Item : Type} {remote : Remote State} {settled : State → Prop} {bucket : String}
  {asset : Asset} {act : String → State → Item × State} {make : String → Item}
  {makes : String → Item → Prop}

theorem handOut_of_settled
    (acts : ∀ key state, settled state → makes key (act key state).1 ∧ settled (act key state).2)
    (wanted : Option Nat) (keys : List String) {state : State} (here : settled state) :
    ∃ handed items left after,
      handOut key wanted keys () = (handed, left, ()) ∧
        handOut act wanted keys state = (items, left, after) ∧
        List.Forall₂ makes handed items ∧ settled after := by
  induction keys generalizing wanted state with
  | nil => exact ⟨[], [], wanted, state, by simp [handOut], by simp [handOut], .nil, here⟩
  | cons first keys ih =>
      by_cases none_wanted : wanted = some 0
      · exact ⟨[], [], some 0, state, by simp [handOut, none_wanted],
          by simp [handOut, none_wanted], .nil, here⟩
      · obtain ⟨made, kept⟩ := acts first state here
        obtain ⟨handed, items, left, after, handed_eq, items_eq, made_rest, settled_after⟩ :=
          ih (wanted.map fun count => count - 1) kept
        refine ⟨first :: handed, (act first state).1 :: items, left, after, ?_, ?_,
          .cons made made_rest, settled_after⟩
        · rw [handOut]
          · simp [handed_eq, key]
          · exact none_wanted
        · rw [handOut]
          · simp [items_eq]
          · exact none_wanted

theorem readPage_of_steady (steady : remote.ListsSteadily settled) (bucket : String) (asset : Asset)
    (token : Option String) {state other : State} (here : settled state) (there : settled other) :
    ∃ read next, asset.readPage remote bucket token state = (read, next) ∧
      asset.readPage (remote.frozen other) bucket token () = (read, ()) ∧ settled next := by
  have same := steady.list (asset.request bucket token) state other here there
  have kept := steady.listed (asset.request bucket token) state here
  cases answered : remote.list (asset.request bucket token) state with
  | mk answer next =>
      rw [answered] at same kept
      simp only [Asset.readPage, Remote.frozen, answered, ← same]
      cases answer with
      | error failure => exact ⟨_, next, rfl, rfl, kept⟩
      | ok page => exact ⟨_, next, rfl, rfl, kept⟩

/-- A walk over a steady store hands out what its act makes of the keys of one walk over the store
as it is, and comes to rest where that walk does. -/
theorem run_makes (steady : remote.ListsSteadily settled) (bucket : String) (asset : Asset)
    (acts : ∀ key state, settled state → makes key (act key state).1 ∧ settled (act key state).2)
    (calls : Nat) (wanted : Option Nat) (token : Option String) {state other : State}
    (here : settled state) (there : settled other) :
    ∃ keys items ending cursor after,
      run (remote.frozen other) bucket asset key calls wanted token () =
          (⟨keys, ending, cursor⟩, ()) ∧
        run remote bucket asset act calls wanted token state = (⟨items, ending, cursor⟩, after) ∧
        List.Forall₂ makes keys items ∧ settled after := by
  induction calls generalizing wanted token state with
  | zero =>
      by_cases none_wanted : wanted = some 0
      · exact ⟨[], [], .stopped, ⟨token⟩, state, by rw [none_wanted, run_zero],
          by rw [none_wanted, run_zero], .nil, here⟩
      · rw [run, run]
        · exact ⟨[], [], .unfinished, ⟨token⟩, state, rfl, rfl, .nil, here⟩
        · exact none_wanted
        · exact none_wanted
  | succ calls ih =>
      by_cases none_wanted : wanted = some 0
      · exact ⟨[], [], .stopped, ⟨token⟩, state, by rw [none_wanted, run_zero],
          by rw [none_wanted, run_zero], .nil, here⟩
      obtain ⟨read, next, read_here, read_frozen, settled_next⟩ :=
        readPage_of_steady steady bucket asset token here there
      simp only [run, read_here, read_frozen]
      cases read with
      | error fault => exact ⟨[], [], .failed fault, ⟨token⟩, next, rfl, rfl, .nil, settled_next⟩
      | ok page =>
          obtain ⟨handed, items, left, after, handed_eq, items_eq, made, settled_after⟩ :=
            handOut_of_settled acts wanted page.keys settled_next
          simp only [handed_eq, items_eq]
          by_cases reached : left = some 0
          · rw [reached]
            exact ⟨handed, items, .stopped, ⟨token⟩, after, rfl, rfl, made, settled_after⟩
          · cases page.nextToken with
            | none =>
                exact ⟨handed, items, .done, .start, after, by simp, by simp, made, settled_after⟩
            | some later =>
                obtain ⟨keys, more, ending, cursor, last, keys_eq, more_eq, made_more,
                  settled_last⟩ := ih left (some later) settled_after
                refine ⟨handed ++ keys, items ++ more, ending, cursor, last, ?_, ?_,
                  List.rel_append made made_more, settled_last⟩
                · simp [keys_eq, Walked.prepend]
                · simp [more_eq, Walked.prepend]

/-- If the item of a key depends on the key alone, the items are made from the keys. -/
theorem run_of_steady (steady : remote.ListsSteadily settled) (bucket : String) (asset : Asset)
    (acts : ∀ key state, settled state → (act key state).1 = make key ∧ settled (act key state).2)
    (calls : Nat) (wanted : Option Nat) (token : Option String) {state other : State}
    (here : settled state) (there : settled other) :
    (run remote bucket asset act calls wanted token state).1 =
        (run (remote.frozen other) bucket asset key calls wanted token ()).1.map make ∧
      settled (run remote bucket asset act calls wanted token state).2 := by
  have makes : ∀ key state, settled state →
      make key = (act key state).1 ∧ settled (act key state).2 :=
    fun key state settled_state => (acts key state settled_state).imp_left Eq.symm
  obtain ⟨keys, items, ending, cursor, after, keys_eq, items_eq, made, settled_after⟩ :=
    @run_makes _ _ _ _ act (fun key item => make key = item) steady bucket asset makes calls wanted
      token state other here there
  obtain rfl : keys.map make = items := by
    rwa [← List.forall₂_map_left_iff, List.forall₂_eq_eq_eq] at made
  rw [keys_eq, items_eq]
  exact ⟨rfl, settled_after⟩

/-- A walk within a session hands out what is made from the keys of one walk over the store alone,
if what is made of a key does not depend on the session while its clock is as it has to be. -/
theorem run_session_of_steady (steady : remote.ListsSteadily settled) (bucket : String)
    (asset : Asset) (holds : Clock → Prop) {act : String → Session State → Item × Session State}
    (acts : ∀ key session, settled session.store ∧ holds session.clock →
      (act key session).1 = make key ∧
        settled (act key session).2.store ∧ holds (act key session).2.clock)
    (calls : Nat) (wanted : Option Nat) (token : Option String) {session : Session State}
    (here : settled session.store ∧ holds session.clock) {store : State} (there : settled store) :
    (run remote.session bucket asset act calls wanted token session).1 =
        (run (remote.frozen store) bucket asset key calls wanted token ()).1.map make ∧
      settled (run remote.session bucket asset act calls wanted token session).2.store := by
  let other : Session State := { session with store := store }
  have there_too : settled other.store ∧ holds other.clock := ⟨there, here.2⟩
  exact (run_of_steady (steady.session holds) bucket asset acts calls wanted token here
    there_too).imp_right And.left

/-- Where handing out leads from one settled state to another, a walk does. -/
theorem settled_run (steady : remote.ListsSteadily settled) (bucket : String) (asset : Asset)
    (acts : ∀ key state, settled state → settled (act key state).2) (calls : Nat)
    (wanted : Option Nat) (token : Option String) {state : State} (here : settled state) :
    settled (run remote bucket asset act calls wanted token state).2 := by
  obtain ⟨keys, items, ending, cursor, after, -, items_eq, -, settled_after⟩ :=
    @run_makes _ _ _ _ act (fun _ _ => True) steady bucket asset
      (fun key state settled_state => ⟨trivial, acts key state settled_state⟩) calls wanted token
      state state here here
  rw [items_eq]
  exact settled_after

end Walk
end BucketCatalog
