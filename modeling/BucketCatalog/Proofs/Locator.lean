import BucketCatalog.Locator
import BucketCatalog.Proofs.Text

/-!
# Addresses that can be read back

The text of an address has no escapes, so that it is read back only if the scheme ends at the first
`://` and the bucket at the first `/` after it.  The mark of the scheme has no beginning that is
also its end, so that none stands across the end of a scheme that has none itself.  On addresses
that can be read back, and on no others, reading and writing are inverse to each other.
-/

namespace BucketCatalog
namespace Locator

/-- An address whose text is read back as the address. -/
structure IsReadable (locator : Locator) : Prop where
  /-- There is a scheme. -/
  scheme : locator.scheme ≠ ""
  /-- The mark after the scheme is the first. -/
  unmarked : ∀ before after, locator.scheme ≠ before ++ "://" ++ after
  /-- There is a bucket. -/
  bucket : locator.bucket ≠ ""
  /-- The slash after the bucket is the first. -/
  single : '/' ∉ locator.bucket.toList
  /-- There is a key. -/
  key : locator.key ≠ ""

theorem unmarked_of_colon_not_mem {scheme : String} (plain : ':' ∉ scheme.toList) :
    ∀ before after, scheme ≠ before ++ "://" ++ after := by
  rintro before after rfl
  simp at plain

/-- The first mark of a scheme is the one after it. -/
theorem splitFirst_scheme {scheme rest : List Char}
    (unmarked : ∀ before, ¬before ++ [':', '/', '/'] <+: scheme) :
    Text.splitFirst [':', '/', '/'] (scheme ++ [':', '/', '/'] ++ rest) = some (scheme, rest) := by
  refine Text.splitFirst_eq_some_iff.mpr ⟨rfl, ?_⟩
  rintro earlier ⟨after, split⟩
  by_contra shorter
  rw [not_le] at shorter
  have earlier_leads : earlier <+: scheme ++ [':', '/', '/'] ++ rest :=
    ⟨[':', '/', '/'] ++ after, by rw [← split, List.append_assoc]⟩
  have scheme_leads : scheme <+: scheme ++ [':', '/', '/'] ++ rest :=
    ⟨[':', '/', '/'] ++ rest, by rw [List.append_assoc]⟩
  obtain ⟨middle, rfl⟩ := List.prefix_of_prefix_length_le earlier_leads scheme_leads shorter.le
  simp only [List.append_assoc, List.append_cancel_left_eq] at split
  -- What the scheme has after the place is too short to hold the mark, or starts with it.
  rcases middle with _ | ⟨first, _ | ⟨second, _ | ⟨third, middle⟩⟩⟩
  · simp at shorter
  · simp at split
  · simp at split
  · simp only [List.cons_append, List.nil_append, List.cons.injEq] at split
    obtain ⟨rfl, rfl, rfl, -⟩ := split
    exact unmarked earlier ⟨middle, by simp⟩

theorem splitFirst_bucket {bucket key : List Char} (single : '/' ∉ bucket) :
    Text.splitFirst ['/'] (bucket ++ ['/'] ++ key) = some (bucket, key) := by
  refine Text.splitFirst_eq_some_iff.mpr ⟨rfl, ?_⟩
  rintro earlier stands
  by_contra shorter
  rw [not_le] at shorter
  have within : earlier ++ ['/'] <+: bucket := by
    apply List.prefix_of_prefix_length_le stands
    · exact ⟨_, by rw [List.append_assoc]⟩
    · rw [List.length_append]
      exact shorter
  exact single (within.subset (by simp))

/-- An address is read back from its text. -/
theorem parse_text {locator : Locator} (readable : locator.IsReadable) :
    parse locator.text = .ok locator := by
  obtain ⟨scheme, bucket, key⟩ := locator
  have unmarked : ∀ before, ¬before ++ [':', '/', '/'] <+: scheme.toList := by
    rintro before ⟨after, split⟩
    refine readable.unmarked (String.ofList before) (String.ofList after) ?_
    simp [← String.toList_inj, ← split]
  have whole : (Locator.text ⟨scheme, bucket, key⟩).toList =
      scheme.toList ++ [':', '/', '/'] ++ (bucket.toList ++ ['/'] ++ key.toList) := by
    simp [Locator.text]
  have scheme_nonempty := readable.scheme
  have bucket_nonempty := readable.bucket
  have key_nonempty := readable.key
  simp only [parse, whole, splitFirst_scheme unmarked, splitFirst_bucket readable.single]
  simp_all

/-- What a text parses to can be read back. -/
theorem isReadable_of_parse {text : String} {locator : Locator}
    (parsed : parse text = .ok locator) : locator.IsReadable := by
  obtain ⟨rest, schemeCut, bucketCut, some_scheme, some_bucket, some_key⟩ :=
    parse_eq_ok_iff.mp parsed
  refine ⟨some_scheme, fun before after split => ?_, some_bucket, fun slash => ?_, some_key⟩
  · apply Text.not_stands_before_splitFirst (by simp) schemeCut before.toList
    exact ⟨after.toList, by simp [split]⟩
  · obtain ⟨earlier, later, split⟩ := List.append_of_mem slash
    apply Text.not_stands_before_splitFirst (by simp) bucketCut earlier
    exact ⟨later, by simp [split]⟩

/--
Reading an address is the inverse of writing it, exactly on the addresses that can be read back: a
text parses to an address if it is the text of it and the address can be read back, it is refused if
it is the text of no such address, and an address is read back from its text only if it is one.
-/
theorem parse_inverts_text :
    (∀ text locator, parse text = .ok locator ↔ locator.text = text ∧ locator.IsReadable) ∧
      (∀ text, (∃ fault, parse text = .error fault) ↔
        ¬∃ locator : Locator, locator.IsReadable ∧ text = locator.text) ∧
      ∀ locator : Locator, parse locator.text = .ok locator ↔ locator.IsReadable := by
  have parsed_iff : ∀ text locator,
      parse text = .ok locator ↔ locator.text = text ∧ locator.IsReadable := by
    intro text locator
    constructor
    · intro parsed
      exact ⟨text_of_parse parsed, isReadable_of_parse parsed⟩
    · rintro ⟨rfl, readable⟩
      exact parse_text readable
  refine ⟨parsed_iff, fun text => ?_, fun locator => ?_⟩
  · constructor
    · rintro ⟨fault, refused⟩ ⟨locator, readable, rfl⟩
      rw [parse_text readable] at refused
      contradiction
    · intro unwritten
      cases parsed : parse text with
      | error fault => exact ⟨fault, rfl⟩
      | ok locator =>
          exact absurd ⟨locator, isReadable_of_parse parsed, (text_of_parse parsed).symm⟩ unwritten
  · rw [parsed_iff, and_iff_right rfl]

/-- The first mark may stand right after a part of one, and later marks belong to the key. -/
example : parse "s:/://b:/c://d?#/" = .ok ⟨"s:/", "b:", "c://d?#/"⟩ := by
  rfl

end Locator
end BucketCatalog
