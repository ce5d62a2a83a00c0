import BucketCatalog.Proofs.Asset
import BucketCatalog.Proofs.Regex.Anchored

/-!
# The filter of an asset

An asset accepts the keys that its filter, read by itself, matches from their start.  Nothing in the
filter reaches beyond the brackets that the anchored form puts around it: what would close them, or
hide the end of them, makes one of the two forms no pattern, and then there is no asset.
-/

namespace BucketCatalog
namespace Asset

variable {name : String} {settings : AssetSettings} {catalog : Settings}

theorem toList_anchoredText (text : String) :
    (Regex.anchoredText text).toList = '^' :: '(' :: '?' :: ':' :: (text.toList ++ [')']) := by
  simp [Regex.anchoredText]

/-- The brackets around a filter cannot be escaped.  A filter that is no pattern by itself is
refused, and of a filter that is taken, the keys that it accepts are those that it matches, read by
itself, from the start of the key on. -/
theorem accepts_iff_matches_start {filter : String} (filtered : settings.filter = some filter) :
    (Regex.compile filter = none → ∃ fault, resolve name settings catalog = .error fault) ∧
      ∀ asset, resolve name settings catalog = .ok asset →
        ∃ regex, Regex.compile filter = some regex ∧
          ∀ key, asset.accepts key = true ↔
            ∃ last, regex.pattern.Matches (.start key.toList) last := by
  constructor
  · intro refused
    cases resolved : resolve name settings catalog with
    | error fault => exact ⟨fault, rfl⟩
    | ok asset =>
        obtain ⟨regex, written⟩ := (isResolved_of_resolve resolved).written
        rw [filtered, Option.getD_some, refused] at written
        contradiction
  · intro asset resolved
    obtain ⟨regex, written⟩ := (isResolved_of_resolve resolved).written
    have anchored := (isResolved_of_resolve resolved).anchored
    rw [filtered, Option.getD_some] at written anchored
    refine ⟨regex, written, fun key => ?_⟩
    obtain ⟨pattern, parsed, rfl⟩ := Option.map_eq_some_iff.mp written
    obtain ⟨pattern', parsed', same⟩ := Option.map_eq_some_iff.mp anchored
    rw [toList_anchoredText] at parsed'
    rw [accepts, ← same]
    exact Regex.Pattern.search_anchored_iff parsed parsed' key.toList

end Asset

namespace Regex

-- Merging is defined by well-founded recursion and does not compute, so the room of a choice
-- between two texts is worked out by equations.
theorem mergeSort_pair {α : Type} (le : α → α → Bool) (first second : α) :
    [first, second].mergeSort le =
      if le first second then [first, second] else [second, first] := by
  simp [List.mergeSort, List.MergeSort.Internal.splitInTwo, List.merge]

/-- The room of two texts by the groups that they fall into. -/
theorem textsRoom_pair {first second : List UInt8} {group : List (List UInt8)}
    {groups : List (List (List UInt8))} (length : Nat)
    (filled : stretches [first, second] = [[first, second]])
    (fall : tails (if headFirst first second then [first, second] else [second, first]) =
      group :: groups) :
    textsRoom (length + 1) [first, second] =
      stateRoom + wayRoom +
        (if groups = [] then stateRoom else stateRoom + moveRoom * (groups.length + 1)) +
        total ((group :: groups).map fun group =>
          if group.all List.isEmpty then 0 else textsRoom length group) := by
  simp [textsRoom, filled, mergeSort_pair, fall, total]

namespace Pattern

variable {pattern : Pattern}

/-- A pattern fits if its automata leave the room that any of them takes besides. -/
theorem fits_of_room (few : ∀ direction, pattern.room direction + 208 ≤ maxRoom) :
    pattern.fits = true := by
  have entry : ∀ fixed, entryRoom fixed ≤ 112 := by decide
  have forward := few .forward
  have backward := few .backward
  have starts := entry pattern.startsText
  have ends := entry pattern.endsText
  rw [fits, Bool.and_eq_true, decide_eq_true_iff, decide_eq_true_iff, stateRoom]
  omega

/-- A text is read as the pattern of its only level, if that fits. -/
theorem parse_eq_some {text : List Char} {depth : Nat}
    (read : (Reading.start.run (text.length + 1) text).map
      (fun reading => (reading.outer, reading.level.pattern)) = some ([], pattern, depth))
    (shallow : depth ≤ maxDepth) (fits : pattern.fits = true) : parse text = some pattern := by
  obtain ⟨reading, run_eq, level_eq⟩ := Option.map_eq_some_iff.mp read
  obtain ⟨closed, whole⟩ := Prod.mk.inj level_eq
  simp [parse, run_eq, Reading.finish, closed, whole, shallow, fits]

end Pattern
end Regex

namespace Asset

/-- Settings of an asset of two years. -/
def years : AssetSettings :=
  { AssetSettings.ofPrefix "" with filter := some "2019|2020" }

/-- The asset of two years. -/
def yearly : Asset where
  name := "years"
  keyPrefix := ""
  delimiter := "/"
  filter :=
    { text := "^(?:2019|2020)"
      pattern :=
        .both (.check .textStart)
          (.either (.text ['2', '0', '1', '9']) (.text ['2', '0', '2', '0'])) }
  partitionPattern := none
  group := 1
  kind := .file
  maxKeys := 1000
  readerMethod := none
  readerOptions := .empty

/-- Settings whose filter would close the brackets around it and open others. -/
def unbalanced : AssetSettings :=
  { AssetSettings.ofPrefix "" with filter := some "a)|(b" }

theorem choiceRoom_years (direction : Regex.Direction) :
    Regex.choiceRoom direction [['2', '0', '1', '9'], ['2', '0', '2', '0']] ≤ 1000 := by
  cases direction with
  | forward =>
      have rows : [['2', '0', '1', '9'], ['2', '0', '2', '0']].map (Regex.bytesOf .forward) =
          [[50, 48, 49, 57], [50, 48, 50, 48]] := by
        decide +kernel
      have apart : Regex.textsRoom 3 [[49, 57], [50, 48]] = 220 := by
        rw [Regex.textsRoom_pair 2 (by decide +kernel) rfl]
        decide +kernel
      have after_two : Regex.textsRoom 4 [[48, 49, 57], [48, 50, 48]] = 288 := by
        rw [Regex.textsRoom_pair 3 (by decide +kernel) rfl]
        simp [apart, Regex.total, Regex.stateRoom, Regex.wayRoom]
      have both : Regex.textsRoom 5 [[50, 48, 49, 57], [50, 48, 50, 48]] = 356 := by
        rw [Regex.textsRoom_pair 4 (by decide +kernel) rfl]
        simp [after_two, Regex.total, Regex.stateRoom, Regex.wayRoom]
      rw [Regex.choiceRoom, rows]
      simp [both, Regex.stateRoom]
  | backward =>
      have rows : [['2', '0', '1', '9'], ['2', '0', '2', '0']].map (Regex.bytesOf .backward) =
          [[57, 49, 48, 50], [48, 50, 48, 50]] := by
        decide +kernel
      have both : Regex.textsRoom 5 [[57, 49, 48, 50], [48, 50, 48, 50]] = 492 := by
        rw [Regex.textsRoom_pair 4 (by decide +kernel) rfl]
        decide +kernel
      rw [Regex.choiceRoom, rows]
      simp [both, Regex.stateRoom]

theorem resolve_years : resolve "years" years (Settings.ofBucket "b") = .ok yearly := by
  have plain_fits : (Regex.Pattern.either (.text ['2', '0', '1', '9'])
      (.text ['2', '0', '2', '0'])).fits = true := by
    refine Regex.Pattern.fits_of_room fun direction => ?_
    have room := choiceRoom_years direction
    exact (Nat.add_le_add_right room 208).trans (by decide)
  have anchored_fits : yearly.filter.pattern.fits = true := by
    refine Regex.Pattern.fits_of_room fun direction => ?_
    have room := choiceRoom_years direction
    exact (Nat.add_le_add_right (Nat.add_le_add_left room 32) 208).trans (by decide)
  have plain : Regex.compile "2019|2020" = some ⟨"2019|2020",
      .either (.text ['2', '0', '1', '9']) (.text ['2', '0', '2', '0'])⟩ := by
    rw [Regex.compile, Regex.Pattern.parse_eq_some rfl (by decide) plain_fits]
    rfl
  have anchored : Regex.compile (Regex.anchoredText "2019|2020") = some yearly.filter := by
    rw [Regex.compile, Regex.Pattern.parse_eq_some rfl (by decide) anchored_fits]
    rfl
  have filtered : years.filter.getD matchAll = "2019|2020" := rfl
  simp only [resolve, filtered, compile, plain, anchored]
  rfl

theorem accepts_iff_matches_start_years :
    resolve "years" years (Settings.ofBucket "b") = .ok yearly ∧
      (∃ regex, Regex.compile "2019|2020" = some regex ∧
        ∀ key, yearly.accepts key = true ↔
          ∃ last, regex.pattern.Matches (.start key.toList) last) ∧
      Regex.compile "a)|(b" = none ∧
      ∃ fault, resolve "bad" unbalanced (Settings.ofBucket "b") = .error fault := by
  have filtered : years.filter = some "2019|2020" := rfl
  have refused : Regex.compile "a)|(b" = none := rfl
  have written : unbalanced.filter = some "a)|(b" := rfl
  exact ⟨resolve_years, (accepts_iff_matches_start filtered).2 yearly resolve_years, refused,
    (accepts_iff_matches_start written).1 refused⟩

/-- An alternative of the filter is not found further inside a key. -/
example : yearly.accepts "2020/access.csv" = true ∧ yearly.accepts "logs/2020.csv" = false := by
  decide +kernel

end Asset
end BucketCatalog
