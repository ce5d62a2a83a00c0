import BucketCatalog.Proofs.Regex.Matches
import Mathlib.Data.List.Perm.Subperm

/-!
# Plans

A plan is a pattern with every repetition written out: each choice that the search may have to come
back to stands there with its number.  Following the plan of a pattern is running the pattern, a
plan matches what its pattern matches, and no two choices of a plan have the same number.
-/

namespace BucketCatalog
namespace Regex

/-- A pattern in which every choice has its number. -/
inductive Plan where
  /-- Nothing. -/
  | empty
  /-- Characters one after another. -/
  | text (chars : List Char)
  /-- One character of a set. -/
  | one (set : CharSet)
  /-- A place where a condition holds. -/
  | check (assertion : Assertion)
  /-- One plan after another. -/
  | both (left right : Plan)
  /-- A choice between two plans. -/
  | either (choice : Nat) (left right : Plan)
  /-- Rounds of a body, with a choice before each of them. -/
  | loop (choice : Nat) (body : Plan) (greedy : Bool)
  /-- At least one round of a body, with a choice after each of them. -/
  | atLeastOnce (choice : Nat) (body : Plan) (greedy : Bool)
  /-- A plan whose text is kept under a number. -/
  | group (index : Nat) (body : Plan)

namespace Plan

/-- The choices of a plan. -/
def choices : Plan → List Nat
  | .empty => []
  | .text _ => []
  | .one _ => []
  | .check _ => []
  | .both left right => left.choices ++ right.choices
  | .either choice left right => choice :: (left.choices ++ right.choices)
  | .loop choice body _ => choice :: body.choices
  | .atLeastOnce choice body _ => choice :: body.choices
  | .group _ body => body.choices

/-- Whether a plan matches from one place to another. -/
def Matches : Plan → Place → Place → Prop
  | .empty, first, last => first = last
  | .text chars, first, last => first.advance? chars = some last
  | .one set, first, last =>
      ∃ char rest, first.rest = char :: rest ∧ set.contains char.toNat = true ∧
        last = ⟨first.index + 1, some char, rest⟩
  | .check assertion, first, last => assertion.holds first = true ∧ first = last
  | .both left right, first, last => ∃ next, left.Matches first next ∧ right.Matches next last
  | .either _ left right, first, last => left.Matches first last ∨ right.Matches first last
  | .loop _ body _, first, last => ∃ count, Rounds body.Matches count first last
  | .atLeastOnce _ body _, first, last => ∃ count, Rounds body.Matches (count + 1) first last
  | .group _ body, first, last => body.Matches first last

/-- The goal to follow a plan and then reach a goal. -/
def run (span : Nat) : Plan → Goal → Goal
  | .empty, goal, place, captures, visits => goal place captures visits
  | .text chars, goal, place, captures, visits =>
      match place.advance? chars with
      | some place => goal place captures visits
      | none => (none, visits)
  | .one set, goal, place, captures, visits =>
      match place.rest with
      | [] => (none, visits)
      | char :: rest =>
          if set.contains char.toNat then
            goal ⟨place.index + 1, some char, rest⟩ captures visits
          else (none, visits)
  | .check assertion, goal, place, captures, visits =>
      if assertion.holds place then goal place captures visits else (none, visits)
  | .both left right, goal, place, captures, visits =>
      left.run span (right.run span goal) place captures visits
  | .either choice left right, goal, place, captures, visits =>
      Goal.once span choice ((left.run span goal).orElse (right.run span goal)) place captures
        visits
  | .loop choice body greedy, goal, place, captures, visits =>
      rounds span choice (body.run span) greedy goal span place captures visits
  | .atLeastOnce choice body greedy, goal, place, captures, visits =>
      body.run span (rounds span choice (body.run span) greedy goal span) place captures visits
  | .group index body, goal, place, captures, visits =>
      let close : Goal := fun last captures visits =>
        goal last ((index, place.rest.take (last.index - place.index)) :: captures) visits
      body.run span close place captures visits

/-- The choice to go on with a plan or to leave it out, in the order of a preference. -/
def optional (choice : Nat) (greedy : Bool) (more : Plan) : Plan :=
  if greedy then .either choice more .empty else .either choice .empty more

/-- A body a number of times, each copy with choices of its own, and then a plan that gets the
number of the first choice after them. -/
def copies (body : Nat → Plan) (width : Nat) (last : Nat → Plan) : Nat → Nat → Plan
  | 0, first => last first
  | count + 1, first => .both (body first) (copies body width last count (first + width))

/-- A body up to a number of times. -/
def upTo (body : Nat → Plan) (width : Nat) (greedy : Bool) : Nat → Nat → Plan
  | 0, _ => .empty
  | count + 1, first =>
      optional first greedy
        (.both (body (first + 1)) (upTo body width greedy count (first + 1 + width)))

end Plan

/-- The plan of a pattern, its choices numbered from `first`. -/
def Pattern.plan : Pattern → Nat → Plan
  | .empty, _ => .empty
  | .text chars, _ => .text chars
  | .one set, _ => .one set
  | .check assertion, _ => .check assertion
  | .both left right, first => .both (left.plan first) (right.plan (first + left.choices))
  | .either left right, first =>
      .either first (left.plan (first + 1)) (right.plan (first + 1 + left.choices))
  | .repeated body least (some most) greedy, first =>
      .copies body.plan body.choices (.upTo body.plan body.choices greedy (most - least)) least
        first
  | .repeated body 0 none greedy, first =>
      if body.consumes then .loop first (body.plan (first + 1)) greedy
      else .optional first greedy (.atLeastOnce (first + 1) (body.plan (first + 2)) greedy)
  | .repeated body (least + 1) none greedy, first =>
      .copies body.plan body.choices
        (fun next => .atLeastOnce (next + body.choices) (body.plan next) greedy) least first
  | .group index body, first => .group index (body.plan first)

/-! ## Following a plan -/

namespace Plan

variable {span width first last : Nat} {greedy : Bool} {goal : Goal}

theorem run_optional (choice : Nat) (greedy : Bool) (more : Plan) (goal : Goal) :
    (optional choice greedy more).run span goal =
      Goal.once span choice (.prefer greedy (more.run span goal) goal) := by
  cases greedy <;> rfl

theorem run_copies {body : Nat → Goal → Goal} {plan : Nat → Plan} {next : Nat → Goal}
    {last : Nat → Plan} (same : ∀ first, body first = (plan first).run span)
    (ends : ∀ first, next first = (last first).run span goal) (count first : Nat) :
    Regex.copies body width next count first =
      (copies plan width last count first).run span goal := by
  induction count generalizing first with
  | zero => exact ends first
  | succ count ih =>
      funext place captures visits
      simp only [Regex.copies, copies, run, ih, same]

theorem run_upTo {body : Nat → Goal → Goal} {plan : Nat → Plan}
    (same : ∀ first, body first = (plan first).run span) (count first : Nat) :
    Regex.upTo span body width greedy goal count first =
      (upTo plan width greedy count first).run span goal := by
  induction count generalizing first with
  | zero => rfl
  | succ count ih =>
      rw [upTo, run_optional]
      funext place captures visits
      simp only [Regex.upTo, ih, same]
      rfl

end Plan

/-- Running a pattern is following its plan. -/
theorem Pattern.run_eq_run_plan (pattern : Pattern) (span first : Nat) (goal : Goal) :
    pattern.run span first goal = (pattern.plan first).run span goal := by
  induction pattern generalizing first goal with
  | both left right left_ih right_ih =>
      funext place captures visits
      simp only [run, plan, Plan.run, left_ih, right_ih]
  | either left right left_ih right_ih =>
      funext place captures visits
      simp only [run, plan, Plan.run, left_ih, right_ih]
  | repeated body least most greedy ih =>
      have same : ∀ first, body.run span first = (body.plan first).run span :=
        fun first => funext (ih first)
      funext place captures visits
      cases most with
      | some most =>
          simp only [run, plan]
          rw [Plan.run_copies same (Plan.run_upTo same (most - least))]
      | none =>
          cases least with
          | zero =>
              simp only [run, plan]
              split
              · simp only [Plan.run, same]
              · rw [Plan.run_optional, same]
                rfl
          | succ least =>
              simp only [run, plan]
              rw [← Plan.run_copies same]
              intro next
              rw [same]
              rfl
  | group index body ih =>
      funext place captures visits
      simp only [run, plan, Plan.run, ih]
  | _ => rfl

/-! ## What a plan matches -/

namespace Plan

variable {plan : Nat → Plan} {step final : Place → Place → Prop} {begin stop : Place}

/-- A match in a text ends in it. -/
theorem Matches.isOf {plan : Plan} {text : List Char} (found : plan.Matches begin stop)
    (of : begin.IsOf text) : stop.IsOf text := by
  induction plan generalizing begin stop with
  | empty =>
      obtain rfl : begin = stop := found
      exact of
  | text chars => exact of.advance found
  | one set =>
      obtain ⟨char, rest, begins, -, rfl⟩ := found
      exact of.step begins
  | check assertion =>
      obtain ⟨-, rfl⟩ := found
      exact of
  | both left right left_ih right_ih =>
      obtain ⟨next, before, after⟩ := found
      exact right_ih after (left_ih before of)
  | either choice left right left_ih right_ih =>
      exact found.elim (fun found => left_ih found of) fun found => right_ih found of
  | loop choice body greedy ih =>
      obtain ⟨count, rounds⟩ := found
      exact holds_of_rounds (Place.IsOf text) (fun _ _ => ih) rounds of
  | atLeastOnce choice body greedy ih =>
      obtain ⟨count, rounds⟩ := found
      exact holds_of_rounds (Place.IsOf text) (fun _ _ => ih) rounds of
  | group index body ih => exact ih found of

theorem matches_optional (choice : Nat) (greedy : Bool) (more : Plan) :
    (optional choice greedy more).Matches begin stop ↔ more.Matches begin stop ∨ begin = stop := by
  cases greedy
  · exact or_comm
  · rfl

theorem matches_copies {last : Nat → Plan}
    (same : ∀ first begin stop, (plan first).Matches begin stop ↔ step begin stop)
    (ends : ∀ first begin stop, (last first).Matches begin stop ↔ final begin stop)
    (width count first : Nat) :
    (copies plan width last count first).Matches begin stop ↔
      ∃ next, Rounds step count begin next ∧ final next stop := by
  induction count generalizing begin first with
  | zero => simp [copies, Rounds, ends]
  | succ count ih =>
      simp only [copies, Matches, Rounds, same, ih]
      constructor
      · rintro ⟨next, takes, middle, rounds, rest⟩
        exact ⟨middle, ⟨next, takes, rounds⟩, rest⟩
      · rintro ⟨middle, ⟨next, takes, rounds⟩, rest⟩
        exact ⟨next, takes, middle, rounds, rest⟩

theorem matches_upTo (same : ∀ first begin stop, (plan first).Matches begin stop ↔ step begin stop)
    (width : Nat) (greedy : Bool) (count first : Nat) :
    (upTo plan width greedy count first).Matches begin stop ↔
      ∃ more ≤ count, Rounds step more begin stop := by
  induction count generalizing begin first with
  | zero => simp [upTo, Matches, Rounds]
  | succ count ih =>
      simp only [upTo, matches_optional, Matches, same, ih]
      constructor
      · rintro (⟨next, takes, more, bounded, rounds⟩ | rfl)
        · exact ⟨more + 1, Nat.succ_le_succ bounded, next, takes, rounds⟩
        · exact ⟨0, Nat.zero_le _, rfl⟩
      · rintro ⟨more, bounded, rounds⟩
        cases more with
        | zero => exact .inr rounds
        | succ more =>
            obtain ⟨next, takes, rest⟩ := rounds
            exact .inl ⟨next, takes, more, Nat.le_of_succ_le_succ bounded, rest⟩

end Plan

namespace Pattern

section Repeated

variable {body : Pattern} {begin stop : Place}
  (same : ∀ first begin stop,
    (body.plan first).Matches begin stop ↔ body.Matches begin stop)
include same

theorem rounds_plan (first count : Nat) :
    Rounds (body.plan first).Matches count begin stop ↔ Rounds body.Matches count begin stop :=
  rounds_congr (same first) count

theorem matches_plan_upTo (least most : Nat) (greedy : Bool) (first : Nat) :
    ((repeated body least (some most) greedy).plan first).Matches begin stop ↔
      (repeated body least (some most) greedy).Matches begin stop := by
  rw [plan, Plan.matches_copies same
    (fun first _ _ => Plan.matches_upTo same body.choices greedy (most - least) first)]
  simp only [Matches, rounds_add, Option.mem_some_iff, forall_eq']
  constructor
  · rintro ⟨next, required, more, bounded, rounds⟩
    exact ⟨more, bounded, next, required, rounds⟩
  · rintro ⟨more, bounded, next, required, rounds⟩
    exact ⟨next, required, more, bounded, rounds⟩

theorem matches_plan_any (greedy : Bool) (first : Nat) :
    ((repeated body 0 none greedy).plan first).Matches begin stop ↔
      (repeated body 0 none greedy).Matches begin stop := by
  have any_rounds : (repeated body 0 none greedy).Matches begin stop ↔
      ∃ count, Rounds body.Matches count begin stop := by
    simp [Matches]
  rw [any_rounds, plan]
  split
  · simp only [Plan.Matches, rounds_plan same]
  · rw [Plan.matches_optional]
    simp only [Plan.Matches, rounds_plan same]
    constructor
    · rintro (⟨count, rounds⟩ | rfl)
      · exact ⟨count + 1, rounds⟩
      · exact ⟨0, rfl⟩
    · rintro ⟨count, rounds⟩
      cases count with
      | zero => exact .inr rounds
      | succ count => exact .inl ⟨count, rounds⟩

theorem matches_plan_atLeast (least : Nat) (greedy : Bool) (first : Nat) :
    ((repeated body (least + 1) none greedy).plan first).Matches begin stop ↔
      (repeated body (least + 1) none greedy).Matches begin stop := by
  have last_round : ∀ first begin stop,
      (Plan.atLeastOnce (first + body.choices) (body.plan first) greedy).Matches begin stop ↔
        ∃ count, Rounds body.Matches (count + 1) begin stop := by
    intro first begin stop
    simp only [Plan.Matches, rounds_plan same]
  have split_rounds : ∀ more, Rounds body.Matches (least + 1 + more) begin stop ↔
      ∃ next, Rounds body.Matches least begin next ∧ Rounds body.Matches (more + 1) next stop := by
    intro more
    rw [Nat.add_assoc, Nat.add_comm 1 more, rounds_add]
  rw [plan, Plan.matches_copies same last_round]
  simp only [Matches, split_rounds, reduceCtorEq, false_implies, Option.mem_def, implies_true,
    true_and]
  constructor
  · rintro ⟨next, required, more, rounds⟩
    exact ⟨more, next, required, rounds⟩
  · rintro ⟨more, next, required, rounds⟩
    exact ⟨next, required, more, rounds⟩

end Repeated

/-- A plan matches what its pattern matches. -/
theorem matches_plan (pattern : Pattern) (first : Nat) (begin stop : Place) :
    (pattern.plan first).Matches begin stop ↔ pattern.Matches begin stop := by
  induction pattern generalizing first begin stop with
  | both left right left_ih right_ih => simp only [plan, Plan.Matches, Matches, left_ih, right_ih]
  | either left right left_ih right_ih =>
      simp only [plan, Plan.Matches, Matches, left_ih, right_ih]
  | repeated body least most greedy ih =>
      cases most with
      | some most => exact matches_plan_upTo ih least most greedy first
      | none =>
          cases least with
          | zero => exact matches_plan_any ih greedy first
          | succ least => exact matches_plan_atLeast ih least greedy first
  | group index body ih => exact ih first begin stop
  | _ => rfl

end Pattern

/-! ## The choices of a plan -/

namespace Plan

theorem choices_optional (choice : Nat) (greedy : Bool) (more : Plan) :
    (optional choice greedy more).choices = choice :: more.choices := by
  cases greedy <;> simp [optional, choices]

theorem choices_copies {plan last : Nat → Plan} {width rest : Nat}
    (numbered : ∀ first, (plan first).choices.Subperm (List.range' first width))
    (ends : ∀ first, (last first).choices.Subperm (List.range' first rest)) (count first : Nat) :
    (copies plan width last count first).choices.Subperm
      (List.range' first (count * width + rest)) := by
  induction count generalizing first with
  | zero => simpa [copies] using ends first
  | succ count ih =>
      have split : (count + 1) * width + rest = width + (count * width + rest) := by
        rw [Nat.succ_mul]
        omega
      rw [split, ← List.range'_append_1]
      exact (numbered first).append (ih (first + width))

theorem choices_upTo {plan : Nat → Plan} {width : Nat}
    (numbered : ∀ first, (plan first).choices.Subperm (List.range' first width)) (greedy : Bool)
    (count first : Nat) :
    (upTo plan width greedy count first).choices.Subperm
      (List.range' first (count * (1 + width))) := by
  induction count generalizing first with
  | zero => simp [upTo, choices]
  | succ count ih =>
      have split : (count + 1) * (1 + width) = width + count * (1 + width) + 1 := by
        rw [Nat.succ_mul]
        omega
      rw [upTo, choices_optional, split, List.range'_succ, ← List.range'_append_1]
      exact (List.subperm_cons first).mpr
        ((numbered (first + 1)).append (ih (first + 1 + width)))

end Plan

/-- The choices of a plan have different numbers, in the range that is set aside for them. -/
theorem Pattern.choices_plan (pattern : Pattern) (first : Nat) :
    (pattern.plan first).choices.Subperm (List.range' first pattern.choices) := by
  induction pattern generalizing first with
  | both left right left_ih right_ih =>
      rw [choices, ← List.range'_append_1]
      exact (left_ih first).append (right_ih (first + left.choices))
  | either left right left_ih right_ih =>
      have split : 1 + left.choices + right.choices = left.choices + right.choices + 1 := by omega
      rw [choices, split, List.range'_succ, ← List.range'_append_1]
      exact (List.subperm_cons first).mpr
        ((left_ih (first + 1)).append (right_ih (first + 1 + left.choices)))
  | repeated body least most greedy ih =>
      match least, most with
      | least, some most =>
          exact Plan.choices_copies ih (Plan.choices_upTo ih greedy (most - least)) least first
      | 0, none =>
          have regrouped : 2 + body.choices = body.choices + 1 + 1 := by omega
          rw [plan, choices, regrouped, List.range'_succ]
          split
          · rw [List.range'_1_concat]
            exact (List.subperm_cons first).mpr
              ((ih (first + 1)).trans (List.sublist_append_left _ _).subperm)
          · rw [Plan.choices_optional, List.range'_succ]
            have rest := (List.subperm_cons (first + 1)).mpr (ih (first + 2))
            exact (List.subperm_cons first).mpr rest
      | least + 1, none =>
          have ends : ∀ next,
              (Plan.atLeastOnce (next + body.choices) (body.plan next) greedy).choices.Subperm
                (List.range' next (body.choices + 1)) := by
            intro next
            rw [List.range'_1_concat]
            exact ((List.subperm_cons _).mpr (ih next)).trans
              (List.perm_append_singleton _ _).symm.subperm
          have split : (least + 1) * body.choices + 1 =
              least * body.choices + (body.choices + 1) := by
            rw [Nat.succ_mul]
            omega
          rw [choices, split]
          exact Plan.choices_copies ih ends least first
  | group index body ih => exact ih first
  | _ => exact List.nil_subperm

theorem Pattern.nodup_choices_plan (pattern : Pattern) (first : Nat) :
    (pattern.plan first).choices.Nodup := by
  obtain ⟨numbers, same, sublist⟩ := pattern.choices_plan first
  exact same.nodup_iff.mp (sublist.nodup (List.nodup_range' 1))

theorem Pattern.choice_lt_choices {pattern : Pattern} {choice : Nat}
    (chosen : choice ∈ (pattern.plan 0).choices) : choice < pattern.choices := by
  have numbered := (pattern.choices_plan 0).subset chosen
  simpa using numbered

end Regex
end BucketCatalog
