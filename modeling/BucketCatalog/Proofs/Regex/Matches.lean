import BucketCatalog.Regex.Search

/-!
# What a pattern matches

A pattern relates the places of a text: a match begins at one place and ends at another.  The
relation says which matches there are, and nothing about the order in which they are tried or about
what is kept of those that failed.

Patterns are put together in a simple form.  A sequence in that form matches what the patterns that
it was made of match one after another.
-/

namespace BucketCatalog
namespace Regex

/-- A step a number of times in a row. -/
def Rounds (step : Place → Place → Prop) : Nat → Place → Place → Prop
  | 0, first, last => first = last
  | count + 1, first, last => ∃ next, step first next ∧ Rounds step count next last

/-- Whether a pattern matches from one place to another.  A repetition goes through its least number
of rounds, and then through more of them as far as it may. -/
def Pattern.Matches : Pattern → Place → Place → Prop
  | .empty, first, last => first = last
  | .text chars, first, last => first.advance? chars = some last
  | .one set, first, last =>
      ∃ char rest, first.rest = char :: rest ∧ set.contains char.toNat = true ∧
        last = ⟨first.index + 1, some char, rest⟩
  | .check assertion, first, last => assertion.holds first = true ∧ first = last
  | .both left right, first, last => ∃ next, left.Matches first next ∧ right.Matches next last
  | .either left right, first, last => left.Matches first last ∨ right.Matches first last
  | .repeated body least most _, first, last =>
      ∃ more, (∀ bound ∈ most, more ≤ bound - least) ∧
        Rounds body.Matches (least + more) first last
  | .group _ body, first, last => body.Matches first last

section Rounds

variable {step other : Place → Place → Prop} {first last : Place}

theorem rounds_add {left right : Nat} :
    Rounds step (left + right) first last ↔
      ∃ next, Rounds step left first next ∧ Rounds step right next last := by
  induction left generalizing first with
  | zero => simp [Rounds]
  | succ left ih =>
      rw [Nat.succ_add]
      simp only [Rounds, ih]
      constructor
      · rintro ⟨next, begins, middle, before, after⟩
        exact ⟨middle, ⟨next, begins, before⟩, after⟩
      · rintro ⟨middle, ⟨next, begins, before⟩, after⟩
        exact ⟨next, begins, middle, before, after⟩

theorem rounds_congr (same : ∀ first last, step first last ↔ other first last) (count : Nat) :
    Rounds step count first last ↔ Rounds other count first last := by
  induction count generalizing first with
  | zero => rfl
  | succ count ih => simp only [Rounds, same, ih]

/-- What every step keeps, rounds keep. -/
theorem holds_of_rounds (holds : Place → Prop)
    (keeps : ∀ first last, step first last → holds first → holds last) {count : Nat}
    (rounds : Rounds step count first last) (begins : holds first) : holds last := by
  induction count generalizing first with
  | zero =>
      obtain rfl : first = last := rounds
      exact begins
  | succ count ih =>
      obtain ⟨next, takes, rest⟩ := rounds
      exact ih rest (keeps first next takes begins)

end Rounds

/-! ## Places of a text -/

namespace Place

/-- The place of a text after some of its characters. -/
def after (text : List Char) (index : Nat) : Place where
  index := index
  before := (text.take index).getLast?
  rest := text.drop index

/-- A place of a text. -/
def IsOf (text : List Char) (place : Place) : Prop :=
  ∃ index ≤ text.length, place = after text index

variable {text chars rest : List Char} {place next other : Place} {char : Char}

theorem start_eq_after (text : List Char) : start text = after text 0 := by
  simp [start, after]

theorem isOf_start (text : List Char) : (start text).IsOf text :=
  ⟨0, Nat.zero_le _, start_eq_after text⟩

theorem IsOf.index_le (of : place.IsOf text) : place.index ≤ text.length := by
  obtain ⟨index, inside, rfl⟩ := of
  exact inside

/-- Only the last place has nothing after it. -/
theorem IsOf.length_le_index {index : Nat} {before : Option Char}
    (of : IsOf text ⟨index, before, []⟩) : text.length ≤ index := by
  obtain ⟨_, -, same⟩ := of
  obtain ⟨rfl, -, ends⟩ := Place.mk.inj same
  exact List.drop_eq_nil_iff.mp ends.symm

/-- A place of a text is known by its number. -/
theorem IsOf.eq_of_index_eq (of : place.IsOf text) (other_of : other.IsOf text)
    (same : place.index = other.index) : place = other := by
  obtain ⟨index, -, rfl⟩ := of
  obtain ⟨_, -, rfl⟩ := other_of
  exact congrArg (after text) same

/-- The place after the next character. -/
theorem IsOf.step (of : place.IsOf text) (goes_on : place.rest = char :: rest) :
    IsOf text ⟨place.index + 1, some char, rest⟩ := by
  obtain ⟨index, -, rfl⟩ := of
  have goes_on : text.drop index = char :: rest := goes_on
  have inside : index < text.length := by
    apply Nat.lt_of_not_le
    intro past
    rw [List.drop_of_length_le past] at goes_on
    contradiction
  have ends := List.drop_eq_getElem_cons inside
  obtain ⟨rfl, rfl⟩ := List.cons.inj (ends.symm.trans goes_on)
  refine ⟨index + 1, inside, ?_⟩
  have before : (text.take (index + 1)).getLast? = some text[index] := by
    rw [List.take_add_one, List.getElem?_eq_getElem inside]
    exact List.getLast?_concat
  simp [after, before]

theorem IsOf.advance (of : place.IsOf text) (goes_on : place.advance? chars = some next) :
    next.IsOf text := by
  induction chars generalizing place with
  | nil =>
      obtain rfl : place = next := by simpa [advance?] using goes_on
      exact of
  | cons char chars ih =>
      rw [advance?] at goes_on
      split at goes_on
      · contradiction
      · next following rest begins =>
          split at goes_on
          · exact ih (of.step begins) goes_on
          · contradiction

theorem advance?_append (place : Place) (chars more : List Char) :
    place.advance? (chars ++ more) =
      (place.advance? chars).bind fun next => next.advance? more := by
  induction chars generalizing place with
  | nil => rfl
  | cons char chars ih =>
      simp only [List.cons_append, advance?]
      cases place.rest with
      | nil => rfl
      | cons following rest =>
          by_cases same : char = following
          · simp only [same, ↓reduceIte, ih]
          · simp only [same, ↓reduceIte, Option.bind_none]

end Place

namespace Pattern

variable {pattern : Pattern} {patterns : List Pattern} {first last : Place}

/-! ## Sequences -/

/-- Whether patterns match one after another. -/
def MatchAll : List Pattern → Place → Place → Prop
  | [], first, last => first = last
  | pattern :: patterns, first, last =>
      ∃ next, pattern.Matches first next ∧ MatchAll patterns next last

theorem matchAll_append (patterns others : List Pattern) :
    MatchAll (patterns ++ others) first last ↔
      ∃ next, MatchAll patterns first next ∧ MatchAll others next last := by
  induction patterns generalizing first with
  | nil => simp [MatchAll]
  | cons pattern patterns ih =>
      simp only [List.cons_append, MatchAll, ih]
      constructor
      · rintro ⟨next, begins, middle, before, after⟩
        exact ⟨middle, ⟨next, begins, before⟩, after⟩
      · rintro ⟨middle, ⟨next, begins, before⟩, after⟩
        exact ⟨next, begins, middle, before, after⟩

theorem matchAll_parts : MatchAll pattern.parts first last ↔ pattern.Matches first last := by
  induction pattern generalizing first last with
  | both left right left_ih right_ih =>
      rw [parts, matchAll_append]
      simp only [left_ih, right_ih, Matches]
  | _ => simp [parts, MatchAll, Matches]

theorem matchAll_prepend (pattern : Pattern) (patterns : List Pattern) :
    MatchAll (prepend pattern patterns) first last ↔ MatchAll (pattern :: patterns) first last := by
  rw [prepend.eq_def]
  split
  · -- Two texts that meet match as one.
    simp only [MatchAll, Matches, Place.advance?_append, Option.bind_eq_some_iff]
    constructor
    · rintro ⟨next, ⟨middle, before, after⟩, rest⟩
      exact ⟨middle, before, next, after, rest⟩
    · rintro ⟨middle, before, next, after, rest⟩
      exact ⟨next, ⟨middle, before, after⟩, rest⟩
  · rfl

theorem matchAll_chain : (chain patterns).Matches first last ↔ MatchAll patterns first last := by
  induction patterns generalizing first with
  | nil => rfl
  | cons pattern patterns ih =>
      cases patterns with
      | nil => simp [chain, MatchAll]
      | cons next rest => simp only [chain, Matches, MatchAll, ih]

theorem matchAll_foldr_prepend :
    MatchAll (patterns.foldr prepend []) first last ↔ MatchAll patterns first last := by
  induction patterns generalizing first with
  | nil => rfl
  | cons pattern patterns ih =>
      rw [List.foldr_cons, matchAll_prepend]
      simp only [MatchAll, ih]

/-- A sequence in simple form matches what its patterns match one after another. -/
theorem matches_sequence :
    (sequence patterns).Matches first last ↔ MatchAll patterns first last := by
  rw [sequence, matchAll_chain, matchAll_foldr_prepend]
  induction patterns generalizing first with
  | nil => rfl
  | cons pattern patterns ih =>
      rw [List.flatMap_cons, matchAll_append]
      simp only [matchAll_parts, ih, MatchAll]

end Pattern
end Regex
end BucketCatalog
