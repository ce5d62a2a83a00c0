import BucketCatalog.Proofs.Regex.Followed
import BucketCatalog.Proofs.Regex.Search

/-!
# Patterns in an anchored group

Reading the text of a pattern inside a group goes through the same readings as reading the text by
itself, with one more level around all others.  The parenthesis at the end closes that level, unless
a comment of the pattern takes it in, and then nothing is read.  So the anchored form of a pattern
is the assertion of the start before the pattern itself.
-/

namespace BucketCatalog
namespace Regex

/-! ## Readings within a level -/

/-- A reading with a level around all that are open. -/
def Reading.within (reading : Reading) (around : Level) : Reading :=
  { reading with outer := reading.outer ++ [around] }

/-- The outermost level of a reading. -/
def Reading.outermost (reading : Reading) : Level :=
  reading.outer.getLast?.getD reading.level

namespace Reading

variable {reading next final : Reading}

theorem push_within {token : Token} (around : Level) (pushed : reading.push token = some next) :
    (reading.within around).push token = some (next.within around) := by
  cases token with
  | one | check | bar | group | flags =>
      obtain rfl := Option.some.inj pushed
      rfl
  | capture name =>
      simp only [push, openCapture] at pushed ⊢
      split at pushed
      · contradiction
      · next fresh =>
          obtain rfl := Option.some.inj pushed
          exact if_neg fresh
  | close =>
      simp only [push, close] at pushed ⊢
      split at pushed
      · contradiction
      · next inner outer left =>
          obtain rfl := Option.some.inj pushed
          simp only [within, left]
          rfl
  | repeated least most greedy =>
      simp only [push, repeatLast] at pushed ⊢
      split at pushed
      · next pattern depth items last =>
          obtain rfl := Option.some.inj pushed
          simp only [within, last]
      · contradiction

theorem outermost_index_of_same (outer : next.outer = reading.outer)
    (index : next.level.index = reading.level.index) :
    next.outermost.index = reading.outermost.index := by
  rw [outermost, outermost, outer]
  cases reading.outer.getLast? with
  | none => exact index
  | some level => rfl

theorem outermost_open (index : Option Nat) (flags : Flags) :
    (reading.open index flags).outermost = reading.outermost := by
  simp only [outermost, Reading.open, List.getLast?_cons, Option.getD_some]

/-- No token changes the number of the outermost level. -/
theorem outermost_index_of_push {token : Token} (pushed : reading.push token = some next) :
    next.outermost.index = reading.outermost.index := by
  cases token with
  | one | check | bar | flags =>
      obtain rfl := Option.some.inj pushed
      exact outermost_index_of_same rfl rfl
  | group changes =>
      obtain rfl := Option.some.inj pushed
      rw [outermost_open]
  | capture name =>
      simp only [push, openCapture] at pushed
      split at pushed
      · contradiction
      · obtain rfl := Option.some.inj pushed
        rw [outermost_open]
        exact outermost_index_of_same rfl rfl
  | close =>
      simp only [push, close] at pushed
      split at pushed
      · contradiction
      · next inner outer left =>
          obtain rfl := Option.some.inj pushed
          rw [outermost, outermost, left, List.getLast?_cons, Option.getD_some]
          cases outer.getLast? with
          | none => rfl
          | some level => rfl
  | repeated least most greedy =>
      simp only [push, repeatLast] at pushed
      split at pushed
      · obtain rfl := Option.some.inj pushed
        exact outermost_index_of_same rfl rfl
      · contradiction

/-! ## Runs within a level -/

theorem run_nil (bound : Nat) (reading : Reading) : reading.run (bound + 1) [] = some reading := by
  have nothing : reading.flags.skip [] = [] :=
    List.length_eq_zero_iff.mp (Nat.le_zero.mp (reading.flags.skip_length_le []))
  rw [run, nothing]

/-- A run inside a level ends where the run by itself ends, and then closes the level if the
parenthesis is still there. -/
theorem run_within {bound wide : Nat} {text longer : List Char} (around : Level)
    (enough : bound < wide) (followed : Followed text longer)
    (ran : reading.run bound text = some final) :
    (reading.within around).run wide longer = some (final.within around) ∨
      (reading.within around).run wide longer = (final.within around).close := by
  induction bound generalizing reading text longer wide with
  | zero => contradiction
  | succ bound ih =>
      obtain _ | wide := wide
      · contradiction
      have more : bound < wide := Nat.lt_of_succ_lt_succ enough
      have same : (reading.within around).flags = reading.flags := rfl
      rw [run] at ran ⊢
      rw [same]
      have skipped := followed.skip reading.flags
      generalize reading.flags.skip text = text, reading.flags.skip longer = longer
        at skipped ran
      cases skipped with
      | taken =>
          obtain rfl := Option.some.inj ran
          exact .inl rfl
      | close =>
          -- The run by itself is over, and the parenthesis is one more token.
          obtain rfl := Option.some.inj ran
          obtain _ | wide := wide
          · contradiction
          refine .inr ?_
          have read : readToken reading.flags [')'] = some (.close, []) := rfl
          simp only [read, Option.bind_eq_bind, Option.bind_some, push]
          cases (reading.within around).close with
          | none => rfl
          | some closed => exact run_nil wide closed
      | cons char rest =>
          have agrees : Agrees (readToken reading.flags (char :: rest))
            (readToken reading.flags (char :: (rest ++ [')']))) :=
              agrees_readToken (.cons char rest)
          simp only at ran ⊢
          generalize readToken reading.flags (char :: rest) = short,
            readToken reading.flags (char :: (rest ++ [')'])) = long at agrees ran ⊢
          cases agrees with
          | failed => contradiction
          | read token after =>
              simp only [Option.bind_eq_bind, Option.bind_some] at ran ⊢
              obtain ⟨next, pushed, ran⟩ := Option.bind_eq_some_iff.mp ran
              rw [push_within around pushed]
              exact ih more after ran

theorem run_outermost_index {bound : Nat} {text : List Char}
    (ran : reading.run bound text = some final) :
    final.outermost.index = reading.outermost.index := by
  induction bound generalizing reading text with
  | zero => contradiction
  | succ bound ih =>
      rw [run] at ran
      split at ran
      · obtain rfl := Option.some.inj ran
        rfl
      · obtain ⟨⟨token, rest⟩, -, ran⟩ := Option.bind_eq_some_iff.mp ran
        obtain ⟨next, pushed, ran⟩ := Option.bind_eq_some_iff.mp ran
        exact (ih ran).trans (outermost_index_of_push pushed)

theorem outer_of_finish {pattern : Pattern} (finished : reading.finish = some pattern) :
    reading.outer = [] ∧ pattern = reading.level.pattern.1 := by
  rw [finish] at finished
  split at finished
  · next whole =>
      simp only [Option.ite_none_right_eq_some, Option.some.injEq] at finished
      exact ⟨whole, finished.2.symm⟩
  · contradiction

/-- What closes the only level that is left: its pattern is put into the level around it. -/
theorem close_within (around : Level) (whole : reading.outer = [])
    (bare : reading.level.index = none) :
    (reading.within around).close =
      some
        { reading with
          flags := reading.level.around
          level := around.add (.part reading.level.pattern.1 (reading.level.pattern.2 + 1))
          outer := [] } := by
  simp only [close, within, whole, bare, List.nil_append]

end Reading

/-! ## The anchored form -/

/-- The level around the group of an anchored pattern. -/
def Level.anchor : Level :=
  (Level.open none .start).add (.part (.check .textStart) 0)

theorem run_anchored (bound : Nat) (text : List Char) :
    Reading.start.run (bound + 2) ('^' :: '(' :: '?' :: ':' :: text) =
      (Reading.start.within .anchor).run bound text := by
  rfl

/-- What the anchored form of a pattern is, if it is a pattern. -/
theorem parse_anchored {text : List Char} {pattern anchored : Pattern}
    (parsed : Pattern.parse text = some pattern)
    (parsed' : Pattern.parse ('^' :: '(' :: '?' :: ':' :: (text ++ [')'])) = some anchored) :
    anchored = Pattern.choice [Pattern.sequence [.check .textStart, pattern]] := by
  obtain ⟨final, ran, finished⟩ := Option.bind_eq_some_iff.mp parsed
  obtain ⟨final', ran', finished'⟩ := Option.bind_eq_some_iff.mp parsed'
  obtain ⟨whole, rfl⟩ := Reading.outer_of_finish finished
  obtain ⟨whole', rfl⟩ := Reading.outer_of_finish finished'
  have bare : final.level.index = none := by
    have outermost := Reading.run_outermost_index ran
    rw [Reading.outermost, whole] at outermost
    exact outermost
  have inside := (run_anchored _ _).symm.trans ran'
  have enough : text.length + 1 < (text ++ [')']).length + 3 := by simp
  obtain ended | closed := Reading.run_within .anchor enough (.append text) ran
  · -- A comment took in the parenthesis, so that the group is still open.
    obtain rfl := Option.some.inj (ended.symm.trans inside)
    rw [Reading.within, whole] at whole'
    contradiction
  · rw [Reading.close_within .anchor whole bare] at closed
    obtain rfl := Option.some.inj (closed.symm.trans inside)
    rfl

namespace Pattern

/-- A condition is kept apart from what follows it. -/
theorem sequence_check (assertion : Assertion) (pattern : Pattern) :
    sequence [.check assertion, pattern] =
      chain (.check assertion :: pattern.parts.foldr prepend []) := by
  simp [sequence, parts, prepend]

/-- A choice that leaves nothing to choose from. -/
theorem choice_check (assertion : Assertion) (pattern : Pattern) :
    choice [sequence [.check assertion, pattern]] = sequence [.check assertion, pattern] := by
  rw [sequence_check]
  cases pattern.parts.foldr prepend [] with
  | nil => rfl
  | cons part parts => rfl

/-- The anchored form of a pattern matches exactly where the pattern matches at the start. -/
theorem search_anchored_iff {text : List Char} {pattern anchored : Pattern}
    (parsed : parse text = some pattern)
    (parsed' : parse ('^' :: '(' :: '?' :: ':' :: (text ++ [')'])) = some anchored)
    (key : List Char) :
    (anchored.search key).isSome = true ↔ ∃ last, pattern.Matches (.start key) last := by
  obtain rfl := parse_anchored parsed parsed'
  rw [search_isSome_iff, choice_check]
  simp only [matches_sequence, MatchAll, Matches, Assertion.holds, decide_eq_true_eq]
  constructor
  · rintro ⟨first, last, of, _, ⟨begins, rfl⟩, _, found, rfl⟩
    obtain rfl := of.eq_of_index_eq (Place.isOf_start key) begins
    exact ⟨_, found⟩
  · rintro ⟨last, found⟩
    exact ⟨.start key, last, Place.isOf_start key, _, ⟨rfl, rfl⟩, last, found, rfl⟩

end Pattern

end Regex
end BucketCatalog
