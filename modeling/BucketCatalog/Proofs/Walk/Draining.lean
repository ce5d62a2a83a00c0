import BucketCatalog.Proofs.Walk
import BucketCatalog.Remote.Script
import Mathlib.Data.List.Forall2

/-!
# Draining an asset

Whatever a store answers, a walk that hands out everything asks for one page after another, hands
out what survives of the good ones, and ends with the first answer that is not a good page with a
token.  The calls are read off a store that writes down its answers, so that the law also holds for
stores whose answers to one token differ.
-/

namespace BucketCatalog

open Listing

/-- A listing call and its answer. -/
structure Exchange where
  /-- What was asked. -/
  request : Request
  /-- What the store answered. -/
  answer : Except StoreFailure Page

/-- A store with the listing calls made to it. -/
structure Transcribed (State : Type) where
  /-- The state of the store. -/
  store : State
  /-- The calls and their answers, oldest first. -/
  exchanges : List Exchange

/-- A store to which no call was made yet. -/
def Transcribed.ofStore {State : Type} (store : State) : Transcribed State where
  store := store
  exchanges := []

/-- A remote store whose listing calls are written down with their answers. -/
def Remote.transcribed {State : Type} (remote : Remote State) : Remote (Transcribed State) where
  list := fun request state =>
    let (answer, store) := remote.list request state.store
    (answer, ⟨store, state.exchanges ++ [⟨request, answer⟩]⟩)
  retrieve := fun bucket key state =>
    let (answer, store) := remote.retrieve bucket key state.store
    (answer, { state with store := store })

theorem Remote.list_transcribed {State : Type} {remote : Remote State} {request : Request}
    {state : Transcribed State} {answer : Except StoreFailure Page} {store : State}
    (answered : remote.list request state.store = (answer, store)) :
    remote.transcribed.list request state =
      (answer, ⟨store, state.exchanges ++ [⟨request, answer⟩]⟩) := by
  simp only [transcribed, answered]

namespace Walk

variable {State : Type} {remote : Remote State} {bucket : String} {asset : Asset}
  {token : Option String}

theorem readPage_transcribed (remote : Remote State) (bucket : String) (asset : Asset)
    (token : Option String) (state : Transcribed State) :
    asset.readPage remote.transcribed bucket token state =
      ((asset.readPage remote bucket token state.store).1,
        { store := (asset.readPage remote bucket token state.store).2
          exchanges := state.exchanges ++ [⟨asset.request bucket token,
            (remote.list (asset.request bucket token) state.store).1⟩] }) := by
  cases answered : remote.list (asset.request bucket token) state.store with
  | mk answer store =>
      simp only [Asset.readPage, Remote.list_transcribed answered, answered]
      cases answer <;> rfl

/-- Writing calls down does not change a walk. -/
theorem run_transcribed (remote : Remote State) (bucket : String) (asset : Asset) (calls : Nat)
    (token : Option String) (state : Transcribed State) :
    (run remote.transcribed bucket asset key calls none token state).1 =
        (run remote bucket asset key calls none token state.store).1 ∧
      (run remote.transcribed bucket asset key calls none token state).2.store =
        (run remote bucket asset key calls none token state.store).2 := by
  induction calls generalizing token state with
  | zero => exact ⟨rfl, rfl⟩
  | succ calls ih =>
      simp only [run, readPage_transcribed]
      cases asset.readPage remote bucket token state.store with
      | mk result store =>
          cases result with
          | error fault => exact ⟨rfl, rfl⟩
          | ok page =>
              simp only [handOut_key]
              cases page.nextToken with
              | none => exact ⟨rfl, rfl⟩
              | some next =>
                  let written : Transcribed State :=
                    { store := store
                      exchanges := state.exchanges ++ [⟨asset.request bucket token,
                        (remote.list (asset.request bucket token) state.store).1⟩] }
                  obtain ⟨same_walk, same_store⟩ := ih (some next) written
                  exact ⟨congrArg (Walked.prepend page.keys) same_walk, same_store⟩

/-- The exchanges of a pass: each page but the last answer brings the token of the next request. -/
structure IsPass (asset : Asset) (bucket : String) (token : Option String) (pages : List Page)
    (answer : Except StoreFailure Page) (exchanges : List Exchange) : Prop where
  /-- The first request has the token of the pass, each other one that of the page before. -/
  requests : List.Forall₂ (asset.Asks bucket) (token :: pages.map Page.nextToken)
    (exchanges.map Exchange.request)
  /-- All answers but the last are pages. -/
  answers : exchanges.map Exchange.answer = pages.map Except.ok ++ [answer]
  /-- They have what the asset needs, and say how to go on. -/
  turned : ∀ page ∈ pages, ∃ next, asset.Turns page next

theorem exists_pass (calls : Nat) (token : Option String) (state : Transcribed State)
    (stops : (run remote.transcribed bucket asset key calls none token state).1.ending ≠
      .unfinished) :
    ∃ pages answer exchanges,
      (run remote.transcribed bucket asset key calls none token state).2.exchanges =
          state.exchanges ++ exchanges ∧
        IsPass asset bucket token pages answer exchanges ∧
        ((∃ page, answer = .ok page ∧ asset.IsLast answer ∧
            (run remote.transcribed bucket asset key calls none token state).1 =
              ⟨(pages ++ [page]).flatMap asset.survivors, .done, .start⟩) ∨
          ∃ fault, asset.Refuses answer fault ∧
            (run remote.transcribed bucket asset key calls none token state).1 =
              ⟨pages.flatMap asset.survivors, .failed fault,
                ⟨(token :: pages.map Page.nextToken).getLast (List.cons_ne_nil _ _)⟩⟩) := by
  induction calls generalizing token state with
  | zero => simp [run] at stops
  | succ calls ih =>
      cases answered : remote.list (asset.request bucket token) state.store with
      | mk answer store =>
          have written := Remote.list_transcribed answered
          have asked := asset.asks_request bucket token
          obtain ⟨fault, refused, ended⟩ | ⟨page, rfl, last, ended⟩ |
            ⟨page, next, rfl, turns, went_on⟩ := run_of_answer written calls
          · refine ⟨[], answer, [⟨asset.request bucket token, answer⟩], by rw [ended],
              ⟨.cons asked .nil, rfl, by simp⟩, .inr ⟨fault, refused, ?_⟩⟩
            rw [ended]
            rfl
          · refine ⟨[], .ok page, [⟨asset.request bucket token, .ok page⟩], by rw [ended],
              ⟨.cons asked .nil, rfl, by simp⟩, .inl ⟨page, rfl, last, ?_⟩⟩
            rw [ended]
            simp
          · rw [went_on] at stops ⊢
            obtain ⟨pages, answer, exchanges, made, pass, ending⟩ := ih (some next) _ stops
            refine ⟨page :: pages, answer, ⟨asset.request bucket token, .ok page⟩ :: exchanges,
              ?_, ⟨?_, ?_, ?_⟩, ?_⟩
            · rw [made, List.append_assoc, List.singleton_append]
            · have requests := pass.requests
              rw [← turns.brings] at requests
              exact .cons asked requests
            · simp [pass.answers]
            · exact List.forall_mem_cons.mpr ⟨⟨next, turns⟩, pass.turned⟩
            · obtain ⟨page, rfl, last, ended⟩ | ⟨fault, refused, ended⟩ := ending
              · refine .inl ⟨page, rfl, last, ?_⟩
                rw [ended]
                rfl
              · refine .inr ⟨fault, refused, ?_⟩
                rw [ended]
                simp [Walked.prepend, turns.brings]

/-- A pass that fails does so with the fault of an answer. -/
theorem refuses_of_failed {state : State} {fault : Fault}
    (failed : (run remote bucket asset key calls none token state).1.ending = .failed fault) :
    ∃ answer, asset.Refuses answer fault := by
  have same := (run_transcribed remote bucket asset calls token (.ofStore state)).1
  rw [Transcribed.ofStore] at same
  rw [← same] at failed
  have stops : (run remote.transcribed bucket asset key calls none token ⟨state, []⟩).1.ending ≠
      .unfinished := by
    simp [failed]
  obtain ⟨pages, answer, -, -, -, ⟨page, -, -, ended⟩ | ⟨given, refused, ended⟩⟩ :=
    exists_pass calls token _ stops
  · rw [ended] at failed
    contradiction
  · rw [ended] at failed
    obtain rfl := Ending.failed.inj failed
    exact ⟨answer, refused⟩

/--
The law of a pass that hands out everything and comes to rest, however many calls more it may make.
Its requests follow the tokens of
its pages, and it ends normally exactly if its last answer is a good page with nothing after it.
Then it has handed out what survives of all pages, and the next pass starts at the beginning.
Otherwise it has handed out what survives of the pages before, the fault is that of the last answer,
and the next pass starts with the request that got it.
-/
theorem drain_law (remote : Remote State) (bucket : String) (asset : Asset) (cursor : Cursor)
    (calls : Nat) (store : State)
    (stops : (run remote bucket asset key calls none cursor.token store).1.ending ≠ .unfinished) :
    (∀ more, run remote bucket asset key (calls + more) none cursor.token store =
        run remote bucket asset key calls none cursor.token store) ∧
      ∃ pages answer,
        IsPass asset bucket cursor.token pages answer
            (run remote.transcribed bucket asset key calls none cursor.token
              (.ofStore store)).2.exchanges ∧
          ((run remote bucket asset key calls none cursor.token store).1.ending = .done ↔
            asset.IsLast answer) ∧
          (∀ page, answer = .ok page → asset.IsLast answer →
            (run remote bucket asset key calls none cursor.token store).1 =
              ⟨(pages ++ [page]).flatMap asset.survivors, .done, .start⟩) ∧
          (¬asset.IsLast answer → ∃ fault, asset.Refuses answer fault ∧
            (run remote bucket asset key calls none cursor.token store).1 =
              ⟨pages.flatMap asset.survivors, .failed fault,
                ⟨(cursor.token :: pages.map Page.nextToken).getLast (List.cons_ne_nil _ _)⟩⟩) := by
  refine ⟨run_add stops, ?_⟩
  have same := (run_transcribed remote bucket asset calls cursor.token (.ofStore store)).1
  rw [Transcribed.ofStore] at same
  rw [← same] at stops ⊢
  obtain ⟨pages, answer, exchanges, made, pass, ending⟩ := exists_pass calls cursor.token _ stops
  refine ⟨pages, answer, ?_, ?_⟩
  · rw [Transcribed.ofStore, made]
    exact pass
  · obtain ⟨page, rfl, last, ended⟩ | ⟨fault, refused, ended⟩ := ending
    · rw [ended]
      refine ⟨iff_of_true rfl last, ?_, fun other => absurd last other⟩
      rintro _ ⟨⟩ -
      rfl
    · rw [ended]
      have other : ¬asset.IsLast answer := fun last => last.not_refuses refused
      exact ⟨iff_of_false (by simp) other, fun _ _ last => absurd last other,
        fun _ => ⟨fault, refused, rfl⟩⟩

/-- A file asset of the keys with an `a` in them. -/
def letters : Asset where
  name := "letters"
  keyPrefix := ""
  delimiter := "/"
  filter := ⟨"a", .text ['a']⟩
  partitionPattern := none
  group := 1
  kind := .file
  maxKeys := 2
  readerMethod := none
  readerOptions := default

/-- A store whose second page has no objects. -/
def foldersOnly : Script where
  pages :=
    [(none, .ok ⟨some [⟨"a", 1⟩, ⟨"b", 1⟩], none, true, some "b"⟩),
      (some "b", .ok ⟨none, some ["ca/"], false, none⟩)]
  objects := []

theorem drain_law_folders_only :
    (run Script.remote "b" letters key 2 none Cursor.start.token foldersOnly).1.ending ≠
        .unfinished ∧
      ∃ pages answer,
        IsPass letters "b" Cursor.start.token pages answer
            (run Script.remote.transcribed "b" letters key 2 none Cursor.start.token
              (.ofStore foldersOnly)).2.exchanges ∧
          ¬letters.IsLast answer ∧
          (run Script.remote "b" letters key 2 none Cursor.start.token foldersOnly).1.cursor =
            .ofToken "b" := by
  have walked : (run Script.remote "b" letters key 2 none Cursor.start.token foldersOnly).1 =
      ⟨["a"], .failed (.page "letters" .file .noContents (some ["ca/"])), .ofToken "b"⟩ := by
    rfl
  have stops : (run Script.remote "b" letters key 2 none Cursor.start.token foldersOnly).1.ending ≠
      .unfinished := by
    simp [walked]
  obtain ⟨-, pages, answer, pass, done_iff, -⟩ :=
    drain_law Script.remote "b" letters .start 2 foldersOnly stops
  refine ⟨stops, pages, answer, pass, ?_, by rw [walked]⟩
  rw [← done_iff, walked]
  simp

end Walk
end BucketCatalog
