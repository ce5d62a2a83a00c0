import BucketCatalog.Walk

/-!
# Steps of a walk

`Asset.Asks` names what a request for a page says, `Asset.collection?` says once what the page must
hold for the asset, and the constructors of `Asset.Refuses` are all reasons to refuse an answer.  A walk that hands out everything either
refuses the answer to its call, ends with the page, or goes on after it.
-/

namespace BucketCatalog

open Listing

namespace Asset

/-- A request for the page of a token, as an asset asks for its pages. -/
structure Asks (asset : Asset) (bucket : String) (token : Option String) (request : Request) :
    Prop where
  /-- It gives the name of the bucket. -/
  bucket_eq : request.bucket = bucket
  /-- It lists the keys that start with the prefix of the asset. -/
  keyPrefix_eq : request.keyPrefix = asset.keyPrefix
  /-- It rolls up on the delimiter of the asset. -/
  delimiter_eq : request.delimiter = asset.delimiter
  /-- It asks for as many entries as the asset has on a page. -/
  maxKeys_eq : request.maxKeys = asset.maxKeys
  /-- It goes on after the token. -/
  token_eq : request.token = token

theorem asks_request (asset : Asset) (bucket : String) (token : Option String) :
    asset.Asks bucket token (asset.request bucket token) :=
  ⟨rfl, rfl, rfl, rfl, rfl⟩

/-- There is one request for the page of a token. -/
theorem Asks.eq {asset : Asset} {bucket : String} {token : Option String} {request : Request}
    (asks : asset.Asks bucket token request) : request = asset.request bucket token := by
  obtain ⟨rfl, keyPrefix_eq, delimiter_eq, maxKeys_eq, rfl⟩ := asks
  rw [Asset.request, ← keyPrefix_eq, ← delimiter_eq, ← maxKeys_eq]

/-- The keys of the collection that an asset needs, those of empty objects apart. -/
def collection? (asset : Asset) (page : Page) : Option (List String) :=
  match asset.kind with
  | .directory => page.commonPrefixes
  | .file =>
      page.contents.map fun objects =>
        (objects.filter fun object => 0 < object.size).map Listed.key

/-- The keys of a page that an asset hands out. -/
def survivors (asset : Asset) (page : Page) : List String :=
  ((asset.collection? page).getD []).filter asset.accepts

/-- The faults of an answer. -/
inductive Refuses (asset : Asset) : Except StoreFailure Page → Fault → Prop where
  /-- The store fails. -/
  | store (failure : StoreFailure) : Refuses asset (.error failure) (.store failure)
  /-- A directory asset gets no common prefixes; the keys of the objects are reported. -/
  | noCommonPrefixes (page : Page) (kind : asset.kind = .directory)
      (absent : page.commonPrefixes = none) :
      Refuses asset (.ok page)
        (.page asset.name .directory .noCommonPrefixes
          (page.contents.map fun objects => objects.map Listed.key))
  /-- A file asset gets no objects; the common prefixes are reported. -/
  | noContents (page : Page) (kind : asset.kind = .file) (absent : page.contents = none) :
      Refuses asset (.ok page) (.page asset.name .file .noContents page.commonPrefixes)
  /-- There is more, and nothing to ask for it with. -/
  | noToken (page : Page) (found : (asset.collection? page).isSome) (more : page.isTruncated)
      (absent : page.nextToken = none) :
      Refuses asset (.ok page) (.page asset.name asset.kind .noToken none)

/-- An answer that ends a listing: a page that has what the asset needs, with nothing after it. -/
def IsLast (asset : Asset) (answer : Except StoreFailure Page) : Prop :=
  ∃ page, answer = .ok page ∧ (asset.collection? page).isSome ∧ page.isTruncated = false

/-- A page that has what the asset needs, with more after it. -/
structure Turns (asset : Asset) (page : Page) (token : String) : Prop where
  /-- The page has what the asset needs. -/
  found : (asset.collection? page).isSome
  /-- There is more. -/
  more : page.isTruncated
  /-- The token to ask for it with. -/
  brings : page.nextToken = some token

variable {asset : Asset} {page : Page} {answer : Except StoreFailure Page} {fault : Fault}

theorem collection?_eq_none_of_refused (refused : asset.Refuses (.ok page) fault)
    (complete : page.isTruncated = false) : asset.collection? page = none := by
  cases refused with
  | noCommonPrefixes _ kind absent => simp [collection?, kind, absent]
  | noContents _ kind absent => simp [collection?, kind, absent]
  | noToken _ found more absent => simp [complete] at more

/-- The last answer of a listing is not refused. -/
theorem IsLast.not_refuses (last : asset.IsLast answer) : ¬asset.Refuses answer fault := by
  obtain ⟨page, rfl, found, complete⟩ := last
  intro refused
  simp [collection?_eq_none_of_refused refused complete] at found

theorem Turns.not_refuses {later : String} (turns : asset.Turns page later) :
    ¬asset.Refuses (.ok page) fault := by
  obtain ⟨found, more, brings⟩ := turns
  intro refused
  cases refused with
  | noCommonPrefixes _ kind absent => simp [collection?, kind, absent] at found
  | noContents _ kind absent => simp [collection?, kind, absent] at found
  | noToken _ _ _ absent => simp [absent] at brings

/-- Candidates are the keys of the collection, and a page without it is refused. -/
theorem candidates_cases (asset : Asset) (page : Page) :
    (∃ fault, asset.Refuses (.ok page) fault ∧ asset.candidates page = .error fault) ∨
      ∃ keys, asset.collection? page = some keys ∧ asset.candidates page = .ok keys := by
  cases kind : asset.kind with
  | directory =>
      cases held : page.commonPrefixes with
      | none =>
          exact .inl ⟨_, .noCommonPrefixes page kind held, by simp [candidates, kind, held]⟩
      | some prefixes =>
          exact .inr ⟨prefixes, by simp [collection?, kind, held], by simp [candidates, kind, held]⟩
  | file =>
      cases held : page.contents with
      | none => exact .inl ⟨_, .noContents page kind held, by simp [candidates, kind, held]⟩
      | some objects =>
          have same : ∀ object : Listed, (object.size != 0) = decide (0 < object.size) := by
            intro object
            rw [Bool.eq_iff_iff, bne_iff_ne, decide_eq_true_iff, UInt64.pos_iff_ne_zero]
          refine .inr ⟨(objects.filter fun object => 0 < object.size).map Listed.key, ?_, ?_⟩
          · simp [collection?, kind, held]
          · simp [candidates, kind, held, same]

/-- A page is refused, ends the listing, or brings the token of the next page. -/
theorem keep_cases (asset : Asset) (page : Page) :
    (∃ fault, asset.Refuses (.ok page) fault ∧ asset.keep page = .error fault) ∨
      (asset.IsLast (.ok page) ∧ asset.keep page = .ok ⟨asset.survivors page, false, none⟩) ∨
      ∃ token, asset.Turns page token ∧
        asset.keep page = .ok ⟨asset.survivors page, true, some token⟩ := by
  obtain ⟨fault, refused, faulty⟩ | ⟨keys, found, kept⟩ := asset.candidates_cases page
  · exact .inl ⟨fault, refused, by rw [keep, faulty]; rfl⟩
  · have some_keys : (asset.collection? page).isSome := by rw [found]; rfl
    have survivors_eq : asset.survivors page = keys.filter asset.accepts := by
      rw [survivors, found]
      rfl
    cases more : page.isTruncated with
    | false =>
        refine .inr (.inl ⟨⟨page, rfl, some_keys, more⟩, ?_⟩)
        simp only [keep, kept, survivors_eq, more, Page.next?]
        rfl
    | true =>
        cases brings : page.nextToken with
        | none =>
            refine .inl ⟨_, .noToken page some_keys more brings, ?_⟩
            simp only [keep, kept, more, brings]
            rfl
        | some token =>
            refine .inr (.inr ⟨token, ⟨some_keys, more, brings⟩, ?_⟩)
            simp only [keep, kept, survivors_eq, more, brings, Page.next?]
            rfl

theorem keep_of_last (last : asset.IsLast (.ok page)) :
    asset.keep page = .ok ⟨asset.survivors page, false, none⟩ := by
  obtain ⟨fault, refused, -⟩ | ⟨-, kept⟩ | ⟨later, turns, -⟩ := asset.keep_cases page
  · exact absurd refused last.not_refuses
  · exact kept
  · obtain ⟨_, ⟨⟩, -, complete⟩ := last
    exact absurd turns.more (by simp [complete])

theorem keep_of_turns {later : String} (turns : asset.Turns page later) :
    asset.keep page = .ok ⟨asset.survivors page, true, some later⟩ := by
  obtain ⟨fault, refused, -⟩ | ⟨last, -⟩ | ⟨other, others, kept⟩ := asset.keep_cases page
  · exact absurd refused turns.not_refuses
  · obtain ⟨_, ⟨⟩, -, complete⟩ := last
    exact absurd turns.more (by simp [complete])
  · rw [kept, Option.some.inj (others.brings.symm.trans turns.brings)]

end Asset

namespace Walk

variable {State Item : Type} {remote : Remote State} {bucket : String} {asset : Asset}
  {token : Option String} {state next : State} {answer : Except StoreFailure Page}

/-- The items of keys that are made from the keys alone. -/
def making {State Item : Type} (make : String → Item) (key : String) (state : State) :
    Item × State :=
  (make key, state)

theorem key_eq_making : (key : String → State → String × State) = making id := rfl

theorem handOut_making (make : String → Item) (keys : List String) (state : State) :
    handOut (making make) none keys state = (keys.map make, none, state) := by
  induction keys with
  | nil => rfl
  | cons first keys ih => simp [handOut, making, ih]

theorem handOut_making_some (make : String → Item) (count : Nat) (keys : List String)
    (state : State) :
    handOut (making make) (some count) keys state =
      ((keys.take count).map make, some (count - keys.length), state) := by
  induction keys generalizing count with
  | nil => simp [handOut]
  | cons first keys ih =>
      cases count with
      | zero => simp [handOut]
      | succ count => simp [handOut, making, ih]

@[simp]
theorem handOut_key (keys : List String) (state : State) :
    handOut key none keys state = (keys, none, state) := by
  rw [key_eq_making, handOut_making, List.map_id]

/-- Whether more items are wanted than a number; if none is given, all are wanted. -/
def WantsMore (wanted : Option Nat) (count : Nat) : Prop :=
  ∀ limit, wanted = some limit → count < limit

theorem wantsMore_none (count : Nat) : WantsMore none count := by
  simp [WantsMore]

theorem WantsMore.rest_ne_zero {wanted : Option Nat} {count : Nat} (more : WantsMore wanted count) :
    (wanted.map fun limit => limit - count) ≠ some 0 := by
  intro spent
  obtain ⟨limit, given, none_left⟩ := Option.map_eq_some_iff.mp spent
  have := more limit given
  omega

section Answered

variable {page : Page} {later : String} {wanted : Option Nat}

theorem run_zero {act : String → State → Item × State} {calls : Nat} (state : State) :
    run remote bucket asset act calls (some 0) token state = (⟨[], .stopped, ⟨token⟩⟩, state) := by
  cases calls <;> rfl

theorem run_of_fault {act : String → State → Item × State} {fault : Fault}
    (read : asset.readPage remote bucket token state = (.error fault, next))
    (some_wanted : wanted ≠ some 0) (calls : Nat) :
    run remote bucket asset act (calls + 1) wanted token state =
      (⟨[], .failed fault, ⟨token⟩⟩, next) := by
  rw [run]
  · simp only [read]
  · exact some_wanted

theorem run_of_failure {failure : StoreFailure} (make : String → Item)
    (answered : remote.list (asset.request bucket token) state = (.error failure, next))
    (calls : Nat) :
    run remote bucket asset (making make) (calls + 1) none token state =
      (⟨[], .failed (.store failure), ⟨token⟩⟩, next) :=
  run_of_fault (by simp only [Asset.readPage, answered]) (by simp) calls

theorem run_of_last (make : String → Item)
    (answered : remote.list (asset.request bucket token) state = (.ok page, next))
    (last : asset.IsLast (.ok page)) (more : WantsMore wanted (asset.survivors page).length)
    (calls : Nat) :
    run remote bucket asset (making make) (calls + 1) wanted token state =
      (⟨(asset.survivors page).map make, .done, .start⟩, next) := by
  cases wanted with
  | none => simp only [run, Asset.readPage, answered, Asset.keep_of_last last, handOut_making]
  | some limit =>
      have short := more limit rfl
      obtain ⟨left, left_eq⟩ := Nat.exists_eq_add_one_of_ne_zero (Nat.sub_ne_zero_of_lt short)
      obtain ⟨limit, rfl⟩ := Nat.exists_eq_add_one_of_ne_zero (Nat.ne_zero_of_lt short)
      simp only [run, Asset.readPage, answered, Asset.keep_of_last last, handOut_making_some,
        left_eq, List.take_of_length_le (Nat.le_of_lt short)]

/-- A walk that wants more than a page has goes on after it. -/
theorem run_of_turns (make : String → Item)
    (answered : remote.list (asset.request bucket token) state = (.ok page, next))
    (turns : asset.Turns page later) (more : WantsMore wanted (asset.survivors page).length)
    (calls : Nat) :
    run remote bucket asset (making make) (calls + 1) wanted token state =
      ((run remote bucket asset (making make) calls
            (wanted.map fun limit => limit - (asset.survivors page).length) (some later)
            next).1.prepend ((asset.survivors page).map make),
        (run remote bucket asset (making make) calls
            (wanted.map fun limit => limit - (asset.survivors page).length) (some later)
            next).2) := by
  cases wanted with
  | none =>
      simp only [run, Asset.readPage, answered, Asset.keep_of_turns turns, handOut_making,
        Option.map_none]
  | some limit =>
      have short := more limit rfl
      obtain ⟨left, left_eq⟩ := Nat.exists_eq_add_one_of_ne_zero (Nat.sub_ne_zero_of_lt short)
      obtain ⟨limit, rfl⟩ := Nat.exists_eq_add_one_of_ne_zero (Nat.ne_zero_of_lt short)
      simp only [run, Asset.readPage, answered, Asset.keep_of_turns turns, handOut_making_some,
        left_eq, List.take_of_length_le (Nat.le_of_lt short), Option.map_some]

/-- A walk stops on the page that has the last of the items it is wanted to hand out, and its cursor
stays there. -/
theorem run_of_reached {kept : KeptPage} {count : Nat} (make : String → Item)
    (answered : remote.list (asset.request bucket token) state = (.ok page, next))
    (keeps : asset.keep page = .ok kept) (some_wanted : 0 < count)
    (reached : count ≤ kept.keys.length) (calls : Nat) :
    run remote bucket asset (making make) (calls + 1) (some count) token state =
      (⟨(kept.keys.take count).map make, .stopped, ⟨token⟩⟩, next) := by
  obtain ⟨count, rfl⟩ := Nat.exists_eq_add_one_of_ne_zero (Nat.ne_of_gt some_wanted)
  simp only [run, Asset.readPage, answered, keeps, handOut_making_some,
    Nat.sub_eq_zero_of_le reached]

end Answered

/-- A walk that wants something refuses the answer to its call, stops on the page, ends with it, or
goes on after it. -/
theorem run_making_cases (make : String → Item) {wanted : Option Nat}
    (answered : remote.list (asset.request bucket token) state = (answer, next))
    (some_wanted : wanted ≠ some 0) (calls : Nat) :
    (∃ fault, asset.Refuses answer fault ∧
        run remote bucket asset (making make) (calls + 1) wanted token state =
          (⟨[], .failed fault, ⟨token⟩⟩, next)) ∨
      (∃ page count, answer = .ok page ∧ (asset.collection? page).isSome ∧ wanted = some count ∧
        run remote bucket asset (making make) (calls + 1) wanted token state =
          (⟨((asset.survivors page).take count).map make, .stopped, ⟨token⟩⟩, next)) ∨
      (∃ page, answer = .ok page ∧ asset.IsLast answer ∧
        run remote bucket asset (making make) (calls + 1) wanted token state =
          (⟨(asset.survivors page).map make, .done, .start⟩, next)) ∨
      ∃ page later, answer = .ok page ∧ asset.Turns page later ∧
        WantsMore wanted (asset.survivors page).length ∧
        run remote bucket asset (making make) (calls + 1) wanted token state =
          ((run remote bucket asset (making make) calls
                (wanted.map fun limit => limit - (asset.survivors page).length) (some later)
                next).1.prepend ((asset.survivors page).map make),
            (run remote bucket asset (making make) calls
                (wanted.map fun limit => limit - (asset.survivors page).length) (some later)
                next).2) := by
  cases answer with
  | error failure =>
      refine .inl ⟨.store failure, .store failure, run_of_fault ?_ some_wanted calls⟩
      simp only [Asset.readPage, answered]
  | ok page =>
      have read : asset.readPage remote bucket token state = (asset.keep page, next) := by
        simp only [Asset.readPage, answered]
      by_cases more : WantsMore wanted (asset.survivors page).length
      · obtain ⟨fault, refused, kept⟩ | ⟨last, -⟩ | ⟨later, turns, -⟩ := asset.keep_cases page
        · exact .inl ⟨fault, refused, run_of_fault (kept ▸ read) some_wanted calls⟩
        · exact .inr (.inr (.inl ⟨page, rfl, last, run_of_last make answered last more calls⟩))
        · exact .inr (.inr (.inr ⟨page, later, rfl, turns, more,
            run_of_turns make answered turns more calls⟩))
      · obtain ⟨count, rfl, reached⟩ : ∃ count, wanted = some count ∧
            count ≤ (asset.survivors page).length := by
          simpa [WantsMore] using more
        have positive : 0 < count := Nat.pos_of_ne_zero fun none_wanted =>
          some_wanted (congrArg some none_wanted)
        obtain ⟨fault, refused, kept⟩ | ⟨last, kept⟩ | ⟨later, turns, kept⟩ := asset.keep_cases page
        · exact .inl ⟨fault, refused, run_of_fault (kept ▸ read) some_wanted calls⟩
        · obtain ⟨_, ⟨⟩, found, -⟩ := last
          exact .inr (.inl ⟨page, count, rfl, found, rfl,
            run_of_reached make answered kept positive reached calls⟩)
        · exact .inr (.inl ⟨page, count, rfl, turns.found, rfl,
            run_of_reached make answered kept positive reached calls⟩)

/-- A walk that hands out everything does one of three things with the answer to its call. -/
theorem run_making_of_answer (make : String → Item)
    (answered : remote.list (asset.request bucket token) state = (answer, next)) (calls : Nat) :
    (∃ fault, asset.Refuses answer fault ∧
        run remote bucket asset (making make) (calls + 1) none token state =
          (⟨[], .failed fault, ⟨token⟩⟩, next)) ∨
      (∃ page, answer = .ok page ∧ asset.IsLast answer ∧
        run remote bucket asset (making make) (calls + 1) none token state =
          (⟨(asset.survivors page).map make, .done, .start⟩, next)) ∨
      ∃ page later, answer = .ok page ∧ asset.Turns page later ∧
        run remote bucket asset (making make) (calls + 1) none token state =
          ((run remote bucket asset (making make) calls none (some later) next).1.prepend
              ((asset.survivors page).map make),
            (run remote bucket asset (making make) calls none (some later) next).2) := by
  have some_wanted : (none : Option Nat) ≠ some 0 := by simp
  obtain refused | ⟨page, count, -, -, absurd_count, -⟩ | last | ⟨page, later, brought, turns, -,
    went_on⟩ := run_making_cases make answered some_wanted calls
  · exact .inl refused
  · simp at absurd_count
  · exact .inr (.inl last)
  · exact .inr (.inr ⟨page, later, brought, turns, went_on⟩)

theorem run_of_answer (answered : remote.list (asset.request bucket token) state = (answer, next))
    (calls : Nat) :
    (∃ fault, asset.Refuses answer fault ∧
        run remote bucket asset key (calls + 1) none token state =
          (⟨[], .failed fault, ⟨token⟩⟩, next)) ∨
      (∃ page, answer = .ok page ∧ asset.IsLast answer ∧
        run remote bucket asset key (calls + 1) none token state =
          (⟨asset.survivors page, .done, .start⟩, next)) ∨
      ∃ page later, answer = .ok page ∧ asset.Turns page later ∧
        run remote bucket asset key (calls + 1) none token state =
          ((run remote bucket asset key calls none (some later) next).1.prepend
              (asset.survivors page),
            (run remote bucket asset key calls none (some later) next).2) := by
  simpa only [key_eq_making, List.map_id] using run_making_of_answer id answered calls

/-- A walk that hands out everything and comes to rest fails, or ends and leaves no token. -/
theorem run_none_cases (calls : Nat) (token : Option String) (state : State) :
    (run remote bucket asset key calls none token state).1.ending = .unfinished ∨
      (∃ fault, (run remote bucket asset key calls none token state).1.ending = .failed fault) ∨
      (run remote bucket asset key calls none token state).1.ending = .done ∧
        (run remote bucket asset key calls none token state).1.cursor = .start := by
  induction calls generalizing token state with
  | zero => exact .inl rfl
  | succ calls ih =>
      cases answered : remote.list (asset.request bucket token) state with
      | mk answer next =>
          obtain ⟨fault, -, ended⟩ | ⟨page, -, -, ended⟩ | ⟨page, later, -, -, went_on⟩ :=
            run_of_answer answered calls
          · exact .inr (.inl ⟨fault, by rw [ended]⟩)
          · exact .inr (.inr ⟨by rw [ended], by rw [ended]⟩)
          · rw [went_on]
            exact ih (some later) next

/-- What holds of all keys that survive of the pages of a store holds of the keys of a walk. -/
theorem forall_mem_run {holds : String → Prop}
    (pages : ∀ token state page, (remote.list (asset.request bucket token) state).1 = .ok page →
      ∀ name ∈ asset.survivors page, holds name)
    (calls : Nat) (wanted : Option Nat) (token : Option String) (state : State) :
    ∀ name ∈ (run remote bucket asset key calls wanted token state).1.items, holds name := by
  induction calls generalizing wanted token state with
  | zero =>
      by_cases none_wanted : wanted = some 0
      · simp [none_wanted, run]
      · rw [run]
        · simp
        · exact none_wanted
  | succ calls ih =>
      by_cases none_wanted : wanted = some 0
      · simp [none_wanted, run]
      have on_page := pages token state
      cases answered : remote.list (asset.request bucket token) state with
      | mk answer next =>
          rw [answered] at on_page
          obtain ⟨fault, -, ended⟩ | ⟨page, count, rfl, -, -, ended⟩ | ⟨page, rfl, -, ended⟩ |
            ⟨page, later, rfl, -, -, went_on⟩ := run_making_cases id answered none_wanted calls
          · simp [key_eq_making, ended]
          · intro name member
            rw [key_eq_making, ended, List.map_id] at member
            exact on_page page rfl name (List.mem_of_mem_take member)
          · intro name member
            rw [key_eq_making, ended, List.map_id] at member
            exact on_page page rfl name member
          · intro name member
            rw [key_eq_making, went_on, List.map_id] at member
            rcases List.mem_append.mp member with here | after
            · exact on_page page rfl name here
            · exact ih _ _ _ name after

/-- A walk that comes to rest does not read the calls that it has left. -/
theorem run_add {act : String → State → Item × State} {calls : Nat} {wanted : Option Nat}
    (rests : (run remote bucket asset act calls wanted token state).1.ending ≠ .unfinished)
    (more : Nat) :
    run remote bucket asset act (calls + more) wanted token state =
      run remote bucket asset act calls wanted token state := by
  induction calls generalizing wanted token state with
  | zero =>
      cases wanted with
      | none => simp [run] at rests
      | some count =>
          cases count with
          | zero => simp [run]
          | succ count => simp [run] at rests
  | succ calls ih =>
      rw [Nat.succ_add]
      by_cases stopped : wanted = some 0
      · simp [stopped, run]
      · simp only [run] at rests ⊢
        cases read : asset.readPage remote bucket token state with
        | mk result after =>
            cases result with
            | error fault => rfl
            | ok page =>
                simp only [read] at rests ⊢
                cases handed : handOut act wanted page.keys after with
                | mk items rest =>
                    obtain ⟨left, final⟩ := rest
                    simp only [handed] at rests ⊢
                    rcases left with _ | _ | count
                    case some.zero => rfl
                    all_goals
                      cases brings : page.nextToken with
                      | none => rfl
                      | some later =>
                          simp only [brings] at rests ⊢
                          rw [ih rests]

end Walk
end BucketCatalog
