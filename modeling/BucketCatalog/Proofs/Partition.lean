import BucketCatalog.Proofs.Catalog.Sentinels
import BucketCatalog.Proofs.Text

/-!
# Telling sentinels from other ids

The id of a key either is a part of the key or is made up at an instant, because the partition
pattern misses the key.  An id is told to be made up by its end, which a part of a key may have as
well: all ids that are made up are told, but so are the parts of keys that end like them.  Since a
key may hold the very text of a sentinel, the text of an id alone cannot tell.
-/

namespace BucketCatalog

/-- A text ends as sentinels do. -/
def EndsLikeSentinel (text : String) : Prop :=
  ∃ start, text = start ++ "__unmatched" ∨ text = start ++ "__no_match_group"

namespace Asset

variable {asset : Asset} {key text : String}

/-- The asset has a partition pattern, which does not match the key or matches it without the group.
-/
def Misses (asset : Asset) (key : String) : Prop :=
  ∃ regex, asset.partitionPattern = some regex ∧
    (regex.groups? key = none ∨
      ∃ groups, regex.groups? key = some groups ∧ groups asset.group.toNat = none)

/-- The part of a key that is its id. -/
inductive Derives (asset : Asset) (key : String) : String → Prop where
  /-- What the key has after the prefix. -/
  | remainder (rest : String) (unpatterned : asset.partitionPattern = none)
      (whole : key = asset.keyPrefix ++ rest) : Derives asset key rest
  /-- A key without the prefix. -/
  | whole (unpatterned : asset.partitionPattern = none)
      (apart : ¬asset.keyPrefix.toList <+: key.toList) : Derives asset key key
  /-- The group of the pattern. -/
  | taken (regex : Regex) (groups : Nat → Option String) (text : String)
      (patterned : asset.partitionPattern = some regex)
      (matched : regex.groups? key = some groups)
      (took_part : groups asset.group.toNat = some text) : Derives asset key text

theorem readId_of_misses (misses : asset.Misses key) : ∃ miss, asset.readId key = .error miss := by
  obtain ⟨regex, patterned, unmatched | ⟨groups, matched, missed⟩⟩ := misses
  · have searched : regex.pattern.search key.toList = none := by
      simpa [Regex.groups?] using unmatched
    exact ⟨.noMatch, by simp [readId, patterned, searched]⟩
  · obtain ⟨captures, searched, rfl⟩ := Option.map_eq_some_iff.mp matched
    have lost : captures.lookup asset.group.toNat = none := by simpa using missed
    exact ⟨.noGroup, by simp [readId, patterned, searched, lost]⟩

theorem readId_of_derives (derives : asset.Derives key text) : asset.readId key = .ok ⟨text⟩ := by
  cases derives with
  | remainder _ unpatterned whole =>
      simp [readId, unpatterned, Text.withoutLead?_eq_some_iff.mpr whole]
  | whole unpatterned apart =>
      have kept : Text.withoutLead? asset.keyPrefix key = none := by
        simpa [Text.withoutLead?] using Text.dropLead?_eq_none_iff.mpr apart
      simp [readId, unpatterned, kept]
  | taken regex groups _ patterned matched took_part =>
      obtain ⟨captures, searched, rfl⟩ := Option.map_eq_some_iff.mp matched
      obtain ⟨chars, found, rfl⟩ := Option.map_eq_some_iff.mp took_part
      simp [readId, patterned, searched, found]

/-- The id of a key is made up or is a part of it. -/
theorem misses_or_derives (asset : Asset) (key : String) :
    asset.Misses key ∨ ∃ text, asset.Derives key text := by
  cases patterned : asset.partitionPattern with
  | none =>
      by_cases leads : asset.keyPrefix.toList <+: key.toList
      · obtain ⟨rest, whole⟩ := leads
        refine .inr ⟨String.ofList rest, .remainder _ patterned ?_⟩
        rw [← String.toList_inj]
        simp [whole]
      · exact .inr ⟨key, .whole patterned leads⟩
  | some regex =>
      cases matched : regex.groups? key with
      | none => exact .inl ⟨regex, patterned, .inl matched⟩
      | some groups =>
          cases took_part : groups asset.group.toNat with
          | none => exact .inl ⟨regex, patterned, .inr ⟨groups, matched, took_part⟩⟩
          | some text => exact .inr ⟨text, .taken regex groups text patterned matched took_part⟩

theorem Derives.not_misses (derives : asset.Derives key text) : ¬asset.Misses key := by
  intro misses
  obtain ⟨miss, unread⟩ := readId_of_misses misses
  rw [readId_of_derives derives] at unread
  contradiction

theorem identify_of_derives (derives : asset.Derives key text) (clock : Clock) :
    (asset.identify key clock).1 = ⟨text⟩ := by
  simp [identify, readId_of_derives derives]

theorem identify_of_misses (misses : asset.Misses key) (clock : Clock) :
    ∃ miss, (asset.identify key clock).1 = .sentinel clock.read.1 miss := by
  obtain ⟨miss, unread⟩ := readId_of_misses misses
  exact ⟨miss, by simp [identify, unread]⟩

end Asset

namespace PartitionId

theorem isSentinel_iff {id : PartitionId} : id.isSentinel = true ↔ EndsLikeSentinel id.text := by
  rw [isSentinel, Bool.or_eq_true, Text.endsWith_iff, Text.endsWith_iff]
  constructor
  · rintro (⟨start, whole⟩ | ⟨start, whole⟩) <;> refine ⟨String.ofList start, ?_⟩
    · left
      rw [← String.toList_inj, ← whole, String.toList_append, String.toList_ofList]
      rfl
    · right
      rw [← String.toList_inj, ← whole, String.toList_append, String.toList_ofList]
      rfl
  · rintro ⟨start, whole | whole⟩ <;> rw [whole, String.toList_append]
    · exact .inl (List.suffix_append _ _)
    · exact .inr (List.suffix_append _ _)

theorem isSentinel_sentinel (now : Instant) (miss : Miss) :
    (sentinel now miss).isSentinel = true := by
  rw [isSentinel_iff]
  cases miss with
  | noMatch => exact ⟨now.stamp, .inl rfl⟩
  | noGroup => exact ⟨now.stamp, .inr rfl⟩

end PartitionId

/--
An id that is made up is always told.  An id that is a part of its key is told to be made up exactly
if it ends like one.  No test of the text could do better: the text of any sentinel is also the id
of a key that holds it.
-/
theorem sentinel_told_iff (asset : Asset) (key : String) (clock : Clock) :
    ((asset.identify key clock).1.isSentinel = true ↔
        asset.Misses key ∨ ∃ text, asset.Derives key text ∧ EndsLikeSentinel text) ∧
      (¬asset.Misses key ↔
        ∃ text, asset.Derives key text ∧ (asset.identify key clock).1 = ⟨text⟩) ∧
      ∀ now miss, ∃ other key, ¬Asset.Misses other key ∧
        (Asset.identify other key clock).1 = .sentinel now miss := by
  refine ⟨?_, ?_, fun now miss => ?_⟩
  · obtain misses | ⟨text, derives⟩ := asset.misses_or_derives key
    · obtain ⟨miss, identified⟩ := Asset.identify_of_misses misses clock
      rw [identified]
      exact iff_of_true (PartitionId.isSentinel_sentinel _ _) (.inl misses)
    · rw [Asset.identify_of_derives derives, PartitionId.isSentinel_iff]
      constructor
      · exact fun ends => .inr ⟨text, derives, ends⟩
      · rintro (misses | ⟨other, derived, ends⟩)
        · exact absurd misses derives.not_misses
        · have same :=
            (Asset.readId_of_derives derived).symm.trans (Asset.readId_of_derives derives)
          cases same
          exact ends
  · constructor
    · intro taken
      obtain misses | ⟨text, derives⟩ := asset.misses_or_derives key
      · exact absurd misses taken
      · exact ⟨text, derives, Asset.identify_of_derives derives clock⟩
    · rintro ⟨text, derives, -⟩
      exact derives.not_misses
  · have derives : (everything "all" "" 1000).Derives (PartitionId.sentinel now miss).text
        (PartitionId.sentinel now miss).text :=
      .remainder _ rfl (String.empty_append).symm
    exact ⟨_, _, derives.not_misses, Asset.identify_of_derives derives clock⟩

/-- A key of an asset without a partition pattern that ends like a sentinel. -/
theorem ordinary_id_told_as_sentinel :
    Asset.resolve "all" (.ofPrefix "") (.ofBucket "b") = .ok (everything "all" "" 1000) ∧
      ¬(everything "all" "" 1000).Misses "a__unmatched" ∧
      ∀ clock, ((everything "all" "" 1000).identify "a__unmatched" clock).1.isSentinel = true := by
  have derives : (everything "all" "" 1000).Derives "a__unmatched" "a__unmatched" :=
    .remainder _ rfl rfl
  refine ⟨rfl, derives.not_misses, fun clock => ?_⟩
  rw [Asset.identify_of_derives derives, PartitionId.isSentinel_iff]
  exact ⟨"a", .inl rfl⟩

end BucketCatalog
