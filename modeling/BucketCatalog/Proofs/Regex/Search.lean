import BucketCatalog.Proofs.Regex.Plan
import Mathlib.Data.Finset.Card
import Mathlib.Data.Set.Lattice
import Mathlib.Order.CompletePartialOrder

/-!
# The search finds a match if there is one

The search does not try a choice again at a place where it was tried before.  It may be met again
while the first trial is still under way, so that giving up there does not mean that nothing comes
of it.  What is known of the visits is that they are closed: whatever a visited choice leads to is
either visited itself or led nowhere.  Each trial that fails keeps the visits closed once it is
over, and a match from a place that was given up would have to leave closed visits.  This also holds
over the trials from one beginning after another.
-/

namespace BucketCatalog
namespace Regex

/-! ## Visits -/

namespace Visits

/-- The visits that were made. -/
def made (visits : Visits) : Set Nat :=
  {visit | visits.has visit = true}

/-- Further visits in the same room. -/
structure Grows (before after : Visits) : Prop where
  /-- The room is the same. -/
  size_eq : Array.size after = Array.size before
  /-- No visit is forgotten. -/
  subset : before.made ⊆ after.made

variable {visits before middle after : Visits} {visit : Nat}

theorem Grows.refl (visits : Visits) : visits.Grows visits :=
  ⟨rfl, subset_rfl⟩

theorem Grows.trans (first : before.Grows middle) (second : middle.Grows after) :
    before.Grows after :=
  ⟨second.size_eq.trans first.size_eq, first.subset.trans second.subset⟩

theorem made_make (inside : visit / visitsPerNumber < Array.size visits) :
    (visits.make visit).made = insert visit visits.made := by
  ext other
  rw [Set.mem_insert_iff]
  simp only [made, Set.mem_ofPred_eq, has_make inside, Bool.or_eq_true, beq_iff_eq]
  exact or_congr_left eq_comm

theorem grows_make (inside : visit / visitsPerNumber < Array.size visits) :
    visits.Grows (visits.make visit) where
  size_eq := Array.size_modify
  subset := by
    rw [made_make inside]
    exact Set.subset_insert visit visits.made

theorem made_none (count : Nat) : (none count).made = ∅ := by
  have unvisited : ∀ visit, (none count).has visit = false := by
    intro visit
    simp only [none, has, Array.getD_eq_getD_getElem?, Array.getElem?_replicate]
    split <;> simp
  ext visit
  simp [made, unvisited]

end Visits

/-- The visit to a choice at a place of a text. -/
def visitOf (text : List Char) (choice : Nat) (place : Place) : Nat :=
  choice * (text.length + 1) + place.index

theorem visitOf_eq_iff {text : List Char} {choice other : Nat} {first second : Place}
    (first_of : first.IsOf text) (second_of : second.IsOf text) :
    visitOf text choice first = visitOf text other second ↔ choice = other ∧ first = second := by
  constructor
  · intro same
    have quotient : ∀ (choice : Nat) (place : Place), place.IsOf text →
        visitOf text choice place / (text.length + 1) = choice := by
      intro choice place of
      have small : place.index / (text.length + 1) = 0 :=
        Nat.div_eq_of_lt (Nat.lt_succ_of_le of.index_le)
      rw [visitOf, Nat.mul_comm, Nat.mul_add_div (Nat.succ_pos _), small, Nat.add_zero]
    obtain rfl : choice = other := by
      rw [← quotient choice first first_of, same, quotient other second second_of]
    exact ⟨rfl, first_of.eq_of_index_eq second_of (Nat.add_left_cancel same)⟩
  · rintro ⟨rfl, rfl⟩
    rfl

/-! ## What visits tell -/

namespace Plan

/-- Whether following a plan from a place leads nowhere, provided that the visits that were made
and the places after the plan that are `lost` lead nowhere. -/
def Refuted (text : List Char) : Plan → Set Nat → (Place → Prop) → Place → Prop
  | .empty, _, lost, place => lost place
  | .text chars, _, lost, place => ∀ next, place.advance? chars = some next → lost next
  | .one set, _, lost, place =>
      ∀ char rest, place.rest = char :: rest → set.contains char.toNat = true →
        lost ⟨place.index + 1, some char, rest⟩
  | .check assertion, _, lost, place => assertion.holds place = true → lost place
  | .both left right, made, lost, place =>
      left.Refuted text made (right.Refuted text made lost) place
  | .either choice _ _, made, _, place => visitOf text choice place ∈ made
  | .loop choice _ _, made, _, place => visitOf text choice place ∈ made
  | .atLeastOnce choice body _, made, _, place =>
      body.Refuted text made (fun next => visitOf text choice next ∈ made) place
  | .group _ body, made, lost, place => body.Refuted text made lost place

/-- Whether everything that new visits to the choices of a plan lead to is visited or lost. -/
def Closed (text : List Char) : Plan → Set Nat → Set Nat → (Place → Prop) → Prop
  | .both left right, new, made, lost =>
      left.Closed text new made (right.Refuted text made lost) ∧ right.Closed text new made lost
  | .either choice left right, new, made, lost =>
      (∀ place, place.IsOf text → visitOf text choice place ∈ new →
        left.Refuted text made lost place ∧ right.Refuted text made lost place) ∧
      left.Closed text new made lost ∧ right.Closed text new made lost
  | .loop choice body _, new, made, lost | .atLeastOnce choice body _, new, made, lost =>
      (∀ place, place.IsOf text → visitOf text choice place ∈ new →
        body.Refuted text made (fun next => visitOf text choice next ∈ made) place ∧ lost place) ∧
      body.Closed text new made fun next => visitOf text choice next ∈ made
  | .group _ body, new, made, lost => body.Closed text new made lost
  | _, _, _, _ => True

variable {text : List Char} {plan : Plan} {new newer made more : Set Nat}
  {lost given_up : Place → Prop} {first last place : Place}

theorem Refuted.mono (subset : made ⊆ more) (weaker : ∀ place, lost place → given_up place)
    (refuted : plan.Refuted text made lost place) : plan.Refuted text more given_up place := by
  induction plan generalizing lost given_up place with
  | empty => exact weaker place refuted
  | text chars => exact fun next goes_on => weaker next (refuted next goes_on)
  | one set => exact fun char rest begins inside => weaker _ (refuted char rest begins inside)
  | check assertion => exact fun holds => weaker place (refuted holds)
  | both left right left_ih right_ih =>
      exact left_ih (fun _ right_refuted => right_ih weaker right_refuted) refuted
  | either choice left right => exact subset refuted
  | loop choice body greedy => exact subset refuted
  | atLeastOnce choice body greedy ih => exact ih (fun _ visited => subset visited) refuted
  | group index body ih => exact ih weaker refuted

theorem Closed.mono (fewer : newer ⊆ new) (subset : made ⊆ more)
    (weaker : ∀ place, lost place → given_up place) (closed : plan.Closed text new made lost) :
    plan.Closed text newer more given_up := by
  induction plan generalizing lost given_up with
  | both left right left_ih right_ih =>
      exact ⟨left_ih (fun _ refuted => refuted.mono subset weaker) closed.1,
        right_ih weaker closed.2⟩
  | either choice left right left_ih right_ih =>
      obtain ⟨own, left_closed, right_closed⟩ := closed
      refine ⟨fun place of visited => ?_, left_ih weaker left_closed, right_ih weaker right_closed⟩
      obtain ⟨left_refuted, right_refuted⟩ := own place of (fewer visited)
      exact ⟨left_refuted.mono subset weaker, right_refuted.mono subset weaker⟩
  | loop choice body greedy ih | atLeastOnce choice body greedy ih =>
      obtain ⟨own, body_closed⟩ := closed
      have again : ∀ place, visitOf text choice place ∈ made → visitOf text choice place ∈ more :=
        fun _ visited => subset visited
      refine ⟨fun place of visited => ?_, ih again body_closed⟩
      obtain ⟨refuted, is_lost⟩ := own place of (fewer visited)
      exact ⟨refuted.mono subset again, weaker place is_lost⟩
  | group index body ih => exact ih weaker closed
  | _ => trivial

theorem Closed.union (closed : plan.Closed text new made lost)
    (newer_closed : plan.Closed text newer made lost) :
    plan.Closed text (new ∪ newer) made lost := by
  induction plan generalizing lost with
  | both left right left_ih right_ih =>
      exact ⟨left_ih closed.1 newer_closed.1, right_ih closed.2 newer_closed.2⟩
  | either choice left right left_ih right_ih =>
      refine ⟨fun place of visited => ?_, left_ih closed.2.1 newer_closed.2.1,
        right_ih closed.2.2 newer_closed.2.2⟩
      exact visited.elim (closed.1 place of) (newer_closed.1 place of)
  | loop choice body greedy ih | atLeastOnce choice body greedy ih =>
      refine ⟨fun place of visited => ?_, ih closed.2 newer_closed.2⟩
      exact visited.elim (closed.1 place of) (newer_closed.1 place of)
  | group index body ih => exact ih closed newer_closed
  | _ => trivial

/-- Visits to other choices do not matter. -/
theorem closed_of_apart
    (apart : ∀ choice ∈ plan.choices, ∀ place, place.IsOf text → visitOf text choice place ∉ new) :
    plan.Closed text new made lost := by
  induction plan generalizing lost with
  | both left right left_ih right_ih =>
      simp only [choices, List.mem_append] at apart
      exact ⟨left_ih fun choice chosen => apart choice (.inl chosen),
        right_ih fun choice chosen => apart choice (.inr chosen)⟩
  | either choice left right left_ih right_ih =>
      simp only [choices, List.mem_cons, List.mem_append] at apart
      exact ⟨fun place of visited => absurd visited (apart choice (.inl rfl) place of),
        left_ih fun choice chosen => apart choice (.inr (.inl chosen)),
        right_ih fun choice chosen => apart choice (.inr (.inr chosen))⟩
  | loop choice body greedy ih | atLeastOnce choice body greedy ih =>
      simp only [choices, List.mem_cons] at apart
      exact ⟨fun place of visited => absurd visited (apart choice (.inl rfl) place of),
        ih fun choice chosen => apart choice (.inr chosen)⟩
  | group index body ih => exact ih apart
  | _ => trivial

/-- Rounds that lead from visits to visits stay at visited places. -/
theorem visited_of_rounds {choice count : Nat}
    (leads : ∀ first last, first.IsOf text → visitOf text choice first ∈ made →
      plan.Matches first last → visitOf text choice last ∈ made)
    (rounds : Rounds plan.Matches count first last) (of : first.IsOf text)
    (visited : visitOf text choice first ∈ made) :
    last.IsOf text ∧ visitOf text choice last ∈ made := by
  refine holds_of_rounds (fun place => place.IsOf text ∧ visitOf text choice place ∈ made) ?_ rounds
    ⟨of, visited⟩
  rintro first last found ⟨of, visited⟩
  exact ⟨found.isOf of, leads first last of visited found⟩

/-- What matches from a place that is refuted ends at a place that is lost, if the visits that were
made are closed. -/
theorem lost_of_matches (closed : plan.Closed text made made lost)
    (refuted : plan.Refuted text made lost first) (found : plan.Matches first last)
    (of : first.IsOf text) : lost last := by
  induction plan generalizing lost first last with
  | empty =>
      obtain rfl : first = last := found
      exact refuted
  | text chars => exact refuted last found
  | one set =>
      obtain ⟨char, rest, begins, inside, rfl⟩ := found
      exact refuted char rest begins inside
  | check assertion =>
      obtain ⟨holds, rfl⟩ := found
      exact refuted holds
  | both left right left_ih right_ih =>
      obtain ⟨next, before, after⟩ := found
      exact right_ih closed.2 (left_ih closed.1 refuted before of) after (before.isOf of)
  | either choice left right left_ih right_ih =>
      obtain ⟨own, left_closed, right_closed⟩ := closed
      obtain ⟨left_refuted, right_refuted⟩ := own first of refuted
      exact found.elim (fun found => left_ih left_closed left_refuted found of)
        fun found => right_ih right_closed right_refuted found of
  | loop choice body greedy ih =>
      obtain ⟨own, body_closed⟩ := closed
      obtain ⟨count, rounds⟩ := found
      obtain ⟨last_of, visited⟩ := visited_of_rounds
        (fun first last of visited found => ih body_closed (own first of visited).1 found of)
        rounds of refuted
      exact (own last last_of visited).2
  | atLeastOnce choice body greedy ih =>
      obtain ⟨own, body_closed⟩ := closed
      obtain ⟨count, next, takes, rounds⟩ := found
      obtain ⟨last_of, visited⟩ := visited_of_rounds
        (fun first last of visited found => ih body_closed (own first of visited).1 found of)
        rounds (takes.isOf of) (ih body_closed refuted takes of)
      exact (own last last_of visited).2
  | group index body ih => exact ih closed refuted found of

/-- Whether new visits are all to the choices of a plan. -/
def Covers (text : List Char) (plan : Plan) (new : Set Nat) : Prop :=
  ∀ visit ∈ new, ∃ choice ∈ plan.choices, ∃ place : Place, place.IsOf text ∧
    visit = visitOf text choice place

/-- Whether a plan stands inside another, before places that are lost by the visits: what closes
visits to its choices closes them in the whole. -/
def LiesIn (text : List Char) (plan root : Plan) (lost : Set Nat → Place → Prop) : Prop :=
  ∀ new made, plan.Covers text new → plan.Closed text new made (lost made) →
    root.Closed text new made fun _ => False

/-- Whether there is room for the visits to all choices of a plan. -/
def HasRoom (text : List Char) (plan : Plan) (visits : Visits) : Prop :=
  ∀ choice ∈ plan.choices, ∀ place : Place, place.IsOf text →
    visitOf text choice place / visitsPerNumber < Array.size visits

theorem Covers.mono {other : Plan} (covers : plan.Covers text new)
    (subset : plan.choices ⊆ other.choices) : other.Covers text new := by
  intro visit added
  obtain ⟨choice, chosen, place, of, same⟩ := covers visit added
  exact ⟨choice, subset chosen, place, of, same⟩

theorem Covers.visitOf_notMem {choice : Nat} (covers : plan.Covers text new)
    (other : choice ∉ plan.choices) (of : place.IsOf text) : visitOf text choice place ∉ new := by
  intro visited
  obtain ⟨own, chosen, own_place, own_of, same⟩ := covers _ visited
  obtain ⟨rfl, -⟩ := (visitOf_eq_iff of own_of).mp same
  exact other chosen

theorem Covers.closed_of_disjoint {other : Plan} (covers : plan.Covers text new)
    (disjoint : plan.choices.Disjoint other.choices) : other.Closed text new made lost :=
  closed_of_apart fun _ chosen _ of => covers.visitOf_notMem (fun own => disjoint own chosen) of

end Plan

/-! ## What a failed goal tells -/

/-- What is known after a goal has led nowhere from a place. -/
structure Failure (text : List Char) (root : Plan) (lost : Set Nat → Place → Prop) (place : Place)
    (before after : Visits) : Prop where
  /-- Visits were only added. -/
  grows : before.Grows after
  /-- The place is lost. -/
  lost : lost after.made place
  /-- The visits that were added are closed. -/
  closed : root.Closed text (after.made \ before.made) after.made fun _ => False

/-- Whether a goal that is tried after some visits only fails for a reason. -/
def Goal.Explores (text : List Char) (root : Plan) (goal : Goal) (start : Visits)
    (lost : Set Nat → Place → Prop) : Prop :=
  ∀ place captures visits after, place.IsOf text → start.Grows visits →
    goal place captures visits = (none, after) → Failure text root lost place visits after

variable {text : List Char} {root : Plan} {goal first second : Goal} {start : Visits}
  {lost lost_first lost_second : Set Nat → Place → Prop}

/-- Where a goal gives up at once, no visits are added. -/
theorem Failure.of_stuck {place : Place} {visits : Visits} (is_lost : lost visits.made place) :
    Failure text root lost place visits visits := by
  refine ⟨.refl _, is_lost, ?_⟩
  rw [Set.sdiff_self]
  exact Plan.closed_of_apart fun _ _ _ _ => Set.notMem_empty _

theorem Failure.closed_trans {before middle after : Visits} {place other : Place}
    (failed : Failure text root lost_first place before middle)
    (failed_again : Failure text root lost_second other middle after) :
    root.Closed text (after.made \ before.made) after.made fun _ => False := by
  have added : after.made \ before.made ⊆
      (middle.made \ before.made) ∪ (after.made \ middle.made) := by
    rintro visit ⟨visited, fresh⟩
    by_cases early : visit ∈ middle.made
    · exact .inl ⟨early, fresh⟩
    · exact .inr ⟨visited, early⟩
  have kept := failed.closed.mono subset_rfl failed_again.grows.subset fun _ => id
  exact (kept.union failed_again.closed).mono added subset_rfl fun _ => id

namespace Goal.Explores

theorem later {later : Visits} (explores : goal.Explores text root start lost)
    (grows : start.Grows later) : goal.Explores text root later lost :=
  fun place captures visits after of grown => explores place captures visits after of
    (grows.trans grown)

theorem orElse (monotone : Monotone lost_first)
    (explores : first.Explores text root start lost_first)
    (explores_second : second.Explores text root start lost_second) :
    (first.orElse second).Explores text root start fun made place =>
      lost_first made place ∧ lost_second made place := by
  intro place captures visits after of grows failed
  rw [Goal.orElse] at failed
  split at failed
  · cases failed
  · next middle failed_first =>
      have early := explores place captures visits middle of grows failed_first
      have late := explores_second place captures middle after of (grows.trans early.grows) failed
      exact ⟨early.grows.trans late.grows,
        ⟨monotone late.grows.subset place early.lost, late.lost⟩, early.closed_trans late⟩

theorem prefer (greedy : Bool) (monotone : Monotone lost_first)
    (monotone_second : Monotone lost_second)
    (explores : first.Explores text root start lost_first)
    (explores_second : second.Explores text root start lost_second) :
    (Goal.prefer greedy first second).Explores text root start fun made place =>
      lost_first made place ∧ lost_second made place := by
  cases greedy with
  | true => exact orElse monotone explores explores_second
  | false =>
      intro place captures visits after of grows failed
      have failure := orElse monotone_second explores_second explores place captures visits after of
        grows failed
      exact ⟨failure.grows, failure.lost.symm, failure.closed⟩

/-- A choice that was not met before at a place is closed when both of its branches have failed. -/
theorem once {choice : Nat} {inner : Goal} (lost : Set Nat → Place → Prop)
    (room : ∀ place : Place, place.IsOf text →
      visitOf text choice place / visitsPerNumber < Array.size start)
    (explores : ∀ (place : Place) (visits : Visits), place.IsOf text → start.Grows visits →
      visitOf text choice place ∉ visits.made →
      inner.Explores text root (visits.make (visitOf text choice place)) lost)
    (closes : ∀ place made, place.IsOf text → lost made place →
      root.Closed text {visitOf text choice place} made fun _ => False) :
    (Goal.once (text.length + 1) choice inner).Explores text root start fun made place =>
      visitOf text choice place ∈ made := by
  intro place captures visits after of grows failed
  have inside : visitOf text choice place / visitsPerNumber < Array.size visits := by
    rw [grows.size_eq]
    exact room place of
  simp only [Goal.once] at failed
  split at failed
  · next visited =>
      obtain rfl := (Prod.mk.inj failed).2
      exact .of_stuck visited
  · next fresh =>
      have made_now := Visits.grows_make inside
      have failure :=
        explores place visits of grows fresh place captures _ after of (.refl _) failed
      have added : after.made \ visits.made ⊆ {visitOf text choice place} ∪
          (after.made \ (visits.make (visitOf text choice place)).made) := by
        rintro visit ⟨visited, unvisited⟩
        rw [Visits.made_make inside]
        by_cases own : visit = visitOf text choice place
        · exact .inl own
        · exact .inr ⟨visited, by simp [own, unvisited]⟩
      refine ⟨made_now.trans failure.grows, failure.grows.subset ?_, ?_⟩
      · rw [Visits.made_make inside]
        exact Set.mem_insert _ _
      · have both := (closes place _ of failure.lost).union failure.closed
        exact both.mono added subset_rfl fun _ => id

end Goal.Explores

/-! ## Rounds -/

/-- The places at which a choice was not met. -/
def unvisited (text : List Char) (choice : Nat) (visits : Visits) : Finset Nat :=
  (Finset.range (text.length + 1)).filter fun index =>
    visits.has (choice * (text.length + 1) + index) = false

section Unvisited

variable {choice : Nat} {place : Place} {visits after : Visits}

theorem card_unvisited_le (text : List Char) (choice : Nat) (visits : Visits) :
    (unvisited text choice visits).card ≤ text.length + 1 :=
  (Finset.card_filter_le _ _).trans_eq (Finset.card_range _)

theorem mem_unvisited_iff (of : place.IsOf text) :
    place.index ∈ unvisited text choice visits ↔ visitOf text choice place ∉ visits.made := by
  have in_text := Nat.lt_succ_of_le of.index_le
  simp [unvisited, visitOf, Visits.made, in_text]

theorem unvisited_subset (grows : visits.Grows after) :
    unvisited text choice after ⊆ unvisited text choice visits := by
  intro index left
  rw [unvisited, Finset.mem_filter] at left ⊢
  refine ⟨left.1, ?_⟩
  by_contra visited
  have still := grows.subset (Bool.eq_true_of_not_eq_false visited)
  exact Bool.false_ne_true (left.2.symm.trans still)

theorem card_unvisited_make_lt (of : place.IsOf text)
    (fresh : visitOf text choice place ∉ visits.made)
    (inside : visitOf text choice place / visitsPerNumber < Array.size visits) :
    (unvisited text choice (visits.make (visitOf text choice place))).card <
      (unvisited text choice visits).card := by
  apply Finset.card_lt_card
  rw [Finset.ssubset_iff_of_subset (unvisited_subset (Visits.grows_make inside))]
  refine ⟨place.index, (mem_unvisited_iff of).mpr fresh, ?_⟩
  rw [mem_unvisited_iff of, not_not, Visits.made_make inside]
  exact Set.mem_insert _ _

end Unvisited

namespace Goal.Explores

variable {choice : Nat} {body : Goal → Goal} {lost_body : Set Nat → Place → Prop}

/-- Rounds fail only where their choice was met; the bound on their number is never the reason. -/
theorem rounds (greedy : Bool) (monotone : Monotone lost) (monotone_body : Monotone lost_body)
    (room : ∀ place : Place, place.IsOf text →
      visitOf text choice place / visitsPerNumber < Array.size start)
    (explores_body : ∀ (later : Visits) (next : Goal), start.Grows later →
      (next.Explores text root later fun made place => visitOf text choice place ∈ made) →
      (body next).Explores text root later lost_body)
    (closes : ∀ place made, place.IsOf text → lost_body made place ∧ lost made place →
      root.Closed text {visitOf text choice place} made fun _ => False)
    (explores : goal.Explores text root start lost) (bound : Nat) {later : Visits}
    (grows : start.Grows later) (enough : (unvisited text choice later).card ≤ bound) :
    (Regex.rounds (text.length + 1) choice body greedy goal bound).Explores text root later
      fun made place => visitOf text choice place ∈ made := by
  have room_later : ∀ place : Place, place.IsOf text →
      visitOf text choice place / visitsPerNumber < Array.size later := by
    intro place of
    rw [grows.size_eq]
    exact room place of
  induction bound generalizing later with
  | zero =>
      intro place captures visits after of grown failed
      obtain rfl := (Prod.mk.inj failed).2
      have none_left : unvisited text choice visits = ∅ :=
        Finset.subset_empty.mp
          (Finset.card_eq_zero.mp (Nat.le_zero.mp enough) ▸ unvisited_subset grown)
      apply Failure.of_stuck
      by_contra fresh
      have left := (mem_unvisited_iff of).mpr fresh
      rw [none_left] at left
      exact Finset.notMem_empty _ left
  | succ bound ih =>
      refine once (fun made place => lost_body made place ∧ lost made place) room_later ?_ closes
      intro place visits of grown fresh
      have inside : visitOf text choice place / visitsPerNumber < Array.size visits := by
        rw [grown.size_eq]
        exact room_later place of
      have fewer := card_unvisited_make_lt of fresh inside
      have no_more : (unvisited text choice visits).card ≤ (unvisited text choice later).card :=
        Finset.card_le_card (unvisited_subset grown)
      have grown_on := grows.trans (grown.trans (Visits.grows_make inside))
      refine prefer greedy monotone_body monotone (explores_body _ _ grown_on ?_)
        (explores.later grown_on)
      apply ih grown_on (by omega)
      intro place of
      rw [grown_on.size_eq]
      exact room place of

end Goal.Explores

/-! ## Following a plan -/

namespace Plan

variable {plan : Plan}

theorem monotone_refuted (monotone : Monotone lost) :
    Monotone fun made => plan.Refuted text made (lost made) :=
  fun _ _ subset _ refuted => refuted.mono subset (monotone subset)

theorem monotone_visited (text : List Char) (choice : Nat) :
    Monotone fun (made : Set Nat) place => visitOf text choice place ∈ made :=
  fun _ _ subset _ visited => subset visited

theorem HasRoom.later {later : Visits} (room : plan.HasRoom text start)
    (grows : start.Grows later) : plan.HasRoom text later := by
  intro choice chosen place of
  rw [grows.size_eq]
  exact room choice chosen place of

theorem covers_visit {choice : Nat} {place : Place} (chosen : choice ∈ plan.choices)
    (of : place.IsOf text) : plan.Covers text {visitOf text choice place} := by
  rintro visit rfl
  exact ⟨choice, chosen, place, of, rfl⟩

/-- A single visit to a choice does not matter to the plans inside. -/
theorem closed_visit {choice : Nat} {place : Place} {made : Set Nat} {lost : Place → Prop}
    (other : choice ∉ plan.choices) (of : place.IsOf text) :
    plan.Closed text {visitOf text choice place} made lost := by
  apply closed_of_apart
  intro inner chosen inner_place inner_of visited
  obtain ⟨rfl, -⟩ := (visitOf_eq_iff inner_of of).mp visited
  exact other chosen

section Loop

variable {choice : Nat} {body : Plan} {greedy : Bool}

theorem LiesIn.of_loop (distinct : (Plan.loop choice body greedy).choices.Nodup)
    (within : (Plan.loop choice body greedy).LiesIn text root lost) :
    body.LiesIn text root fun made place => visitOf text choice place ∈ made := by
  intro new made covers closed
  refine within new made (covers.mono (List.subset_cons_self _ _)) ⟨?_, closed⟩
  intro place of visited
  exact absurd visited (covers.visitOf_notMem (List.nodup_cons.mp distinct).1 of)

theorem explores_loop (monotone : Monotone lost)
    (distinct : (Plan.loop choice body greedy).choices.Nodup)
    (room : (Plan.loop choice body greedy).HasRoom text start)
    (within : (Plan.loop choice body greedy).LiesIn text root lost)
    (explores_body : ∀ (later : Visits) (next : Goal), start.Grows later →
      (next.Explores text root later fun made place => visitOf text choice place ∈ made) →
      (body.run (text.length + 1) next).Explores text root later fun made =>
        body.Refuted text made fun place => visitOf text choice place ∈ made)
    (explores : goal.Explores text root start lost) :
    ((Plan.loop choice body greedy).run (text.length + 1) goal).Explores text root start
      fun made place => visitOf text choice place ∈ made := by
  refine .rounds greedy monotone (monotone_refuted (monotone_visited text choice))
    (room choice List.mem_cons_self) explores_body ?_ explores _ (.refl start)
    (card_unvisited_le text choice start)
  rintro place made of ⟨refuted, is_lost⟩
  refine within _ made (covers_visit List.mem_cons_self of) ⟨?_, ?_⟩
  · intro other other_of visited
    obtain ⟨-, rfl⟩ := (visitOf_eq_iff other_of of).mp visited
    exact ⟨refuted, is_lost⟩
  · exact closed_visit (List.nodup_cons.mp distinct).1 of

end Loop

/-- Following a plan fails only where it is refuted. -/
theorem explores_run (monotone : Monotone lost) (distinct : plan.choices.Nodup)
    (room : plan.HasRoom text start) (within : plan.LiesIn text root lost)
    (explores : goal.Explores text root start lost) :
    (plan.run (text.length + 1) goal).Explores text root start fun made =>
      plan.Refuted text made (lost made) := by
  induction plan generalizing goal start lost with
  | empty => exact explores
  | text chars =>
      intro place captures visits after of grows failed
      simp only [run] at failed
      split at failed
      · next next goes_on =>
          have failure := explores next captures visits after (of.advance goes_on) grows failed
          refine ⟨failure.grows, fun other also => ?_, failure.closed⟩
          obtain rfl := Option.some.inj (goes_on.symm.trans also)
          exact failure.lost
      · next stuck =>
          obtain rfl := (Prod.mk.inj failed).2
          refine .of_stuck fun other goes_on => ?_
          rw [stuck] at goes_on
          contradiction
  | one set =>
      intro place captures visits after of grows failed
      simp only [run] at failed
      split at failed
      · next ends =>
          obtain rfl := (Prod.mk.inj failed).2
          refine .of_stuck fun char rest begins => ?_
          rw [ends] at begins
          contradiction
      · next char rest begins =>
          split at failed
          · have failure := explores _ captures visits after (of.step begins) grows failed
            refine ⟨failure.grows, fun other others also _ => ?_, failure.closed⟩
            obtain ⟨rfl, rfl⟩ := List.cons.inj (begins.symm.trans also)
            exact failure.lost
          · next outside =>
              obtain rfl := (Prod.mk.inj failed).2
              refine .of_stuck fun other others also inside => ?_
              obtain ⟨rfl, rfl⟩ := List.cons.inj (begins.symm.trans also)
              exact absurd inside outside
  | check assertion =>
      intro place captures visits after of grows failed
      simp only [run] at failed
      split at failed
      · have failure := explores place captures visits after of grows failed
        exact ⟨failure.grows, fun _ => failure.lost, failure.closed⟩
      · next fails =>
          obtain rfl := (Prod.mk.inj failed).2
          exact .of_stuck fun holds => absurd holds fails
  | both left right left_ih right_ih =>
      obtain ⟨left_distinct, right_distinct, disjoint⟩ := List.nodup_append'.mp distinct
      have left_within : left.LiesIn text root fun made => right.Refuted text made (lost made) :=
        fun new made covers closed => within new made
          (covers.mono (List.subset_append_left _ _)) ⟨closed, covers.closed_of_disjoint disjoint⟩
      have right_within : right.LiesIn text root lost :=
        fun new made covers closed => within new made
          (covers.mono (List.subset_append_right _ _))
          ⟨covers.closed_of_disjoint disjoint.symm, closed⟩
      refine left_ih (monotone_refuted monotone) left_distinct ?_ left_within
        (right_ih monotone right_distinct ?_ right_within explores)
      · exact fun choice chosen => room choice (List.mem_append_left _ chosen)
      · exact fun choice chosen => room choice (List.mem_append_right _ chosen)
  | either choice left right left_ih right_ih =>
      obtain ⟨fresh, both_distinct⟩ := List.nodup_cons.mp distinct
      obtain ⟨left_distinct, right_distinct, disjoint⟩ := List.nodup_append'.mp both_distinct
      rw [List.mem_append, not_or] at fresh
      have left_within : left.LiesIn text root lost := fun new made covers closed =>
        within new made (covers.mono fun _ chosen => .tail _ (List.mem_append_left _ chosen))
          ⟨fun place of visited => absurd visited (covers.visitOf_notMem fresh.1 of), closed,
            covers.closed_of_disjoint disjoint⟩
      have right_within : right.LiesIn text root lost := fun new made covers closed =>
        within new made (covers.mono fun _ chosen => .tail _ (List.mem_append_right _ chosen))
          ⟨fun place of visited => absurd visited (covers.visitOf_notMem fresh.2 of),
            covers.closed_of_disjoint disjoint.symm, closed⟩
      have left_room : left.HasRoom text start :=
        fun inner chosen => room inner (.tail _ (List.mem_append_left _ chosen))
      have right_room : right.HasRoom text start :=
        fun inner chosen => room inner (.tail _ (List.mem_append_right _ chosen))
      refine .once
        (fun made place =>
          left.Refuted text made (lost made) place ∧ right.Refuted text made (lost made) place)
        (room choice List.mem_cons_self) ?_ ?_
      · intro place visits of grows fresh
        have inside : visitOf text choice place / visitsPerNumber < Array.size visits := by
          rw [grows.size_eq]
          exact room choice List.mem_cons_self place of
        have grown := grows.trans (Visits.grows_make inside)
        exact .orElse (monotone_refuted monotone)
          (left_ih monotone left_distinct (left_room.later grown) left_within
            (explores.later grown))
          (right_ih monotone right_distinct (right_room.later grown) right_within
            (explores.later grown))
      · rintro place made of refuted
        refine within _ made (covers_visit List.mem_cons_self of)
          ⟨?_, closed_visit fresh.1 of, closed_visit fresh.2 of⟩
        intro other other_of visited
        obtain ⟨-, rfl⟩ := (visitOf_eq_iff other_of of).mp visited
        exact refuted
  | loop choice body greedy ih =>
      have body_distinct := (List.nodup_cons.mp distinct).2
      have body_room : body.HasRoom text start :=
        fun inner chosen => room inner (List.mem_cons_of_mem _ chosen)
      exact explores_loop monotone distinct room within
        (fun later next grows => ih (monotone_visited text choice) body_distinct
          (body_room.later grows) (LiesIn.of_loop distinct within)) explores
  | atLeastOnce choice body greedy ih =>
      have body_distinct := (List.nodup_cons.mp distinct).2
      have body_room : body.HasRoom text start :=
        fun inner chosen => room inner (List.mem_cons_of_mem _ chosen)
      have as_loop : (Plan.loop choice body greedy).LiesIn text root lost := within
      have body_within := LiesIn.of_loop distinct as_loop
      exact ih (monotone_visited text choice) body_distinct body_room body_within
        (explores_loop monotone distinct room as_loop
          (fun later next grows => ih (monotone_visited text choice) body_distinct
            (body_room.later grows) body_within) explores)
  | group index body ih =>
      intro place captures visits after of grows failed
      refine ih monotone distinct room within ?_ place captures visits after of grows failed
      exact fun last captures => explores last _

end Plan

/-! ## What a goal that is reached tells -/

/-- Whether a goal leads somewhere only from places of some kind. -/
def Goal.Finds (goal : Goal) (found : Place → Prop) : Prop :=
  ∀ place captures visits, (goal place captures visits).1.isSome = true → found place

namespace Goal.Finds

variable {found found_first found_second : Place → Prop} {step : Place → Place → Prop}

theorem orElse (finds : first.Finds found_first) (finds_second : second.Finds found_second) :
    (first.orElse second).Finds fun place => found_first place ∨ found_second place := by
  intro place captures visits reached
  rw [Goal.orElse] at reached
  split at reached
  · next groups after led =>
      refine .inl (finds place captures visits ?_)
      rw [led]
      rfl
  · exact .inr (finds_second place captures _ reached)

theorem prefer (greedy : Bool) (finds : first.Finds found_first)
    (finds_second : second.Finds found_second) :
    (Goal.prefer greedy first second).Finds fun place =>
      found_first place ∨ found_second place := by
  cases greedy with
  | true => exact orElse finds finds_second
  | false =>
      exact fun place captures visits reached =>
        (orElse finds_second finds place captures visits reached).symm

theorem once (span choice : Nat) (finds : goal.Finds found) :
    (Goal.once span choice goal).Finds found := by
  intro place captures visits reached
  simp only [Goal.once] at reached
  split at reached
  · contradiction
  · exact finds place captures _ reached

theorem rounds {body : Goal → Goal} (span choice : Nat) (greedy : Bool)
    (finds_body : ∀ (next : Goal) (found : Place → Prop), next.Finds found →
      (body next).Finds fun first => ∃ last, step first last ∧ found last)
    (finds : goal.Finds found) (bound : Nat) :
    (Regex.rounds span choice body greedy goal bound).Finds fun first =>
      ∃ count last, Rounds step count first last ∧ found last := by
  induction bound with
  | zero => exact fun _ _ _ reached => absurd reached Bool.false_ne_true
  | succ bound ih =>
      have finds_choice := once span choice (prefer greedy (finds_body _ _ ih) finds)
      intro place captures visits reached
      obtain ⟨next, takes, count, last, rounds, ends⟩ | ends :=
        finds_choice place captures visits reached
      · exact ⟨count + 1, last, ⟨next, takes, rounds⟩, ends⟩
      · exact ⟨0, place, rfl, ends⟩

end Goal.Finds

/-- Following a plan leads somewhere only over a match. -/
theorem Plan.finds_run (plan : Plan) (span : Nat) {found : Place → Prop}
    (finds : goal.Finds found) :
    (plan.run span goal).Finds fun first => ∃ last, plan.Matches first last ∧ found last := by
  induction plan generalizing goal found with
  | empty => exact fun place captures visits reached =>
      ⟨place, rfl, finds place captures visits reached⟩
  | text chars =>
      intro place captures visits reached
      simp only [run] at reached
      split at reached
      · next next goes_on => exact ⟨next, goes_on, finds next captures visits reached⟩
      · contradiction
  | one set =>
      intro place captures visits reached
      simp only [run] at reached
      split at reached
      · contradiction
      · next char rest begins =>
          split at reached
          · next inside =>
              exact ⟨_, ⟨char, rest, begins, inside, rfl⟩, finds _ captures visits reached⟩
          · contradiction
  | check assertion =>
      intro place captures visits reached
      simp only [run] at reached
      split at reached
      · next holds => exact ⟨place, ⟨holds, rfl⟩, finds place captures visits reached⟩
      · contradiction
  | both left right left_ih right_ih =>
      intro place captures visits reached
      obtain ⟨next, before, last, after, ends⟩ :=
        left_ih (right_ih finds) place captures visits reached
      exact ⟨last, ⟨next, before, after⟩, ends⟩
  | either choice left right left_ih right_ih =>
      intro place captures visits reached
      obtain ⟨last, taken, ends⟩ | ⟨last, taken, ends⟩ :=
        Goal.Finds.once span choice ((left_ih finds).orElse (right_ih finds)) place captures visits
          reached
      · exact ⟨last, .inl taken, ends⟩
      · exact ⟨last, .inr taken, ends⟩
  | loop choice body greedy ih =>
      intro place captures visits reached
      obtain ⟨count, last, rounds, ends⟩ :=
        Goal.Finds.rounds span choice greedy (fun _ _ finds => ih finds) finds span place captures
          visits reached
      exact ⟨last, ⟨count, rounds⟩, ends⟩
  | atLeastOnce choice body greedy ih =>
      intro place captures visits reached
      have finds_rounds :=
        Goal.Finds.rounds span choice greedy (fun _ _ finds => ih finds) finds span
      obtain ⟨next, takes, count, last, rounds, ends⟩ :=
        ih finds_rounds place captures visits reached
      exact ⟨last, ⟨count, next, takes, rounds⟩, ends⟩
  | group index body ih =>
      intro place captures visits reached
      refine ih ?_ place captures visits reached
      exact fun last captures => finds last _

/-! ## Searching -/

namespace Pattern

variable {pattern : Pattern} {place last : Place} {visits after : Visits}

/-- The plan of a match, whose text is group 0. -/
def wholePlan (pattern : Pattern) : Plan :=
  (Pattern.group 0 pattern).plan 0

theorem matchAt_eq (pattern : Pattern) (span : Nat) (place : Place) (visits : Visits) :
    pattern.matchAt span place visits = pattern.wholePlan.run span .done place [] visits := by
  rw [matchAt, run_eq_run_plan]
  rfl

theorem matches_wholePlan : pattern.wholePlan.Matches place last ↔ pattern.Matches place last :=
  matches_plan (.group 0 pattern) 0 place last

theorem matches_of_matchAt {span : Nat}
    (reached : (pattern.matchAt span place visits).1.isSome = true) :
    ∃ last, pattern.Matches place last := by
  rw [matchAt_eq] at reached
  have finds : Goal.done.Finds fun _ => True := fun _ _ _ _ => trivial
  obtain ⟨last, found, -⟩ := pattern.wholePlan.finds_run span finds place [] visits reached
  exact ⟨last, matches_wholePlan.mp found⟩

/-- Visits that lead nowhere but to each other, in a room that has place for all. -/
structure IsClosed (text : List Char) (pattern : Pattern) (visits : Visits) : Prop where
  /-- There is room for all visits. -/
  room : pattern.wholePlan.HasRoom text visits
  /-- The visits are closed. -/
  closed : pattern.wholePlan.Closed text visits.made visits.made fun _ => False

theorem isClosed_none (text : List Char) (pattern : Pattern) :
    pattern.IsClosed text (Visits.none (pattern.choices * (text.length + 1))) where
  room := by
    intro choice chosen place of
    have in_plan : choice ∈ ((Pattern.group 0 pattern).plan 0).choices := chosen
    have next_le : choice + 1 ≤ pattern.choices := choice_lt_choices in_plan
    have below : visitOf text choice place < pattern.choices * (text.length + 1) := by
      have index_le := of.index_le
      have row_le := Nat.mul_le_mul_right (text.length + 1) next_le
      rw [Nat.succ_mul] at row_le
      rw [visitOf]
      omega
    rw [Visits.none, Array.size_replicate]
    exact Nat.lt_succ_of_le (Nat.div_le_div_right below.le)
  closed := by
    rw [Visits.made_none]
    exact Plan.closed_of_apart fun _ _ _ _ => Set.notMem_empty _

/-- Where a trial fails the pattern does not match, and the visits are closed again. -/
theorem not_matches_of_matchAt (before : pattern.IsClosed text visits) (of : place.IsOf text)
    (failed : pattern.matchAt (text.length + 1) place visits = (none, after)) :
    pattern.IsClosed text after ∧ ∀ last, ¬pattern.Matches place last := by
  rw [matchAt_eq] at failed
  have explores : Goal.done.Explores text pattern.wholePlan visits fun _ _ => False := by
    rintro place captures visits after - - failed
    cases failed
  have failure := Plan.explores_run monotone_const (nodup_choices_plan (.group 0 pattern) 0)
    before.room (fun _ _ _ closed => closed) explores place [] visits after of (.refl visits) failed
  have closed : pattern.wholePlan.Closed text after.made after.made fun _ => False := by
    have kept := before.closed.mono subset_rfl failure.grows.subset fun _ => id
    refine (kept.union failure.closed).mono (fun visit visited => ?_) subset_rfl fun _ => id
    by_cases early : visit ∈ visits.made
    · exact .inl early
    · exact .inr ⟨visited, early⟩
  refine ⟨⟨before.room.later failure.grows, closed⟩, fun last found => ?_⟩
  exact Plan.lost_of_matches closed failure.lost (matches_wholePlan.mpr found) of

/-- A trial reaches a match exactly if one begins at its place. -/
theorem matchAt_isSome_iff (before : pattern.IsClosed text visits) (of : place.IsOf text) :
    (pattern.matchAt (text.length + 1) place visits).1.isSome = true ↔
      ∃ last, pattern.Matches place last := by
  refine ⟨matches_of_matchAt, fun ⟨last, found⟩ => ?_⟩
  cases tried : pattern.matchAt (text.length + 1) place visits with
  | mk groups after =>
      cases groups with
      | none => exact absurd found ((not_matches_of_matchAt before of tried).2 last)
      | some groups => rfl

/-- The search from a place on finds a match if one begins there or later. -/
theorem searchFrom_isSome_iff {rest : List Char} {before : Option Char} {index : Nat}
    (of : Place.IsOf text ⟨index, before, rest⟩) (closed : pattern.IsClosed text visits) :
    (pattern.searchFrom (text.length + 1) index before rest visits).isSome = true ↔
      ∃ first last, first.IsOf text ∧ index ≤ first.index ∧ pattern.Matches first last := by
  induction rest generalizing index before visits with
  | nil =>
      rw [searchFrom, matchAt_isSome_iff closed of]
      constructor
      · rintro ⟨last, found⟩
        exact ⟨_, last, of, le_rfl, found⟩
      · rintro ⟨first, last, first_of, late, found⟩
        have same := Nat.le_antisymm late (first_of.index_le.trans of.length_le_index)
        obtain rfl := of.eq_of_index_eq first_of same
        exact ⟨last, found⟩
  | cons char rest ih =>
      rw [searchFrom]
      cases tried : pattern.matchAt (text.length + 1) ⟨index, before, char :: rest⟩ visits with
      | mk groups after =>
          cases groups with
          | some groups =>
              have reached : (pattern.matchAt (text.length + 1) ⟨index, before, char :: rest⟩
                  visits).1.isSome = true := by rw [tried]; rfl
              obtain ⟨last, found⟩ := matches_of_matchAt reached
              exact iff_of_true rfl ⟨_, last, of, le_rfl, found⟩
          | none =>
              obtain ⟨closed_after, no_match⟩ := not_matches_of_matchAt closed of tried
              rw [ih (of.step rfl) closed_after]
              constructor
              · rintro ⟨first, last, first_of, late, found⟩
                exact ⟨first, last, first_of, Nat.le_of_succ_le late, found⟩
              · rintro ⟨first, last, first_of, late, found⟩
                refine ⟨first, last, first_of, Nat.lt_of_le_of_ne late fun same => ?_, found⟩
                obtain rfl := of.eq_of_index_eq first_of same
                exact no_match last found

/-- A search finds a match exactly if the pattern matches somewhere in the text. -/
theorem search_isSome_iff (pattern : Pattern) (text : List Char) :
    (pattern.search text).isSome = true ↔
      ∃ first last, first.IsOf text ∧ pattern.Matches first last := by
  rw [search, searchFrom_isSome_iff (Place.isOf_start text) (isClosed_none text pattern)]
  simp only [Nat.zero_le, true_and]

end Pattern
end Regex
end BucketCatalog
