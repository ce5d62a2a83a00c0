import BucketCatalog.Bucket
import BucketCatalog.Proofs.Text

/-!
# Paths of paths

The path of a path is in general another path.  The paths that stay as they are have a plain form:
none of their segments is empty, names a directory, or holds a character that is written by its
bytes.  A text that leads such a path comes no earlier than its own path, which is why a listing
that goes on after the path of a name reads everything past the name.
-/

namespace BucketCatalog
namespace StoredPath

/-- A segment that is written as it is. -/
structure IsPlainSegment (segment : List Char) : Prop where
  /-- It is not left out. -/
  nonempty : segment ≠ []
  /-- It does not mean the directory itself. -/
  not_dot : segment ≠ ['.']
  /-- It does not mean the directory above. -/
  not_dots : segment ≠ ['.', '.']
  /-- None of its characters is written by its bytes. -/
  plain : ∀ char ∈ segment, isPlain char

/-- A path that is its own path. -/
def IsStable (path : String) : Prop :=
  ofKey path = path

instance : DecidablePred IsStable := fun path =>
  inferInstanceAs (Decidable (ofKey path = path))

theorem length_percent (byte : UInt8) : (percent byte).length = 3 := rfl

theorem encodeChar_of_plain {char : Char} (plain : isPlain char) : encodeChar char = [char] := by
  simp [encodeChar, plain]

/-- A character that is written by its bytes takes three places for each of them. -/
theorem three_le_length_encodeChar {char : Char} (other : ¬isPlain char) :
    3 ≤ (encodeChar char).length := by
  have bytes : 0 < (String.utf8EncodeChar char).length := by
    rw [String.length_utf8EncodeChar]
    exact char.utf8Size_pos
  obtain ⟨byte, rest, split⟩ := List.exists_cons_of_length_pos bytes
  simp [encodeChar, other, split, length_percent]

theorem length_le_length_flatMap (chars : List Char) :
    chars.length ≤ (chars.flatMap encodeChar).length := by
  induction chars with
  | nil => simp
  | cons char chars ih =>
      have one : 1 ≤ (encodeChar char).length := by
        by_cases plain : isPlain char
        · simp [encodeChar_of_plain plain]
        · have := three_le_length_encodeChar plain
          omega
      simp only [List.flatMap_cons, List.length_append, List.length_cons]
      omega

theorem flatMap_encodeChar_of_plain {chars : List Char} (plain : ∀ char ∈ chars, isPlain char) :
    chars.flatMap encodeChar = chars := by
  induction chars with
  | nil => rfl
  | cons char chars ih =>
      rw [List.flatMap_cons, encodeChar_of_plain (plain char List.mem_cons_self),
        ih fun other member => plain other (List.mem_cons_of_mem _ member)]
      rfl

/-- Only plain characters keep their places when all of them are written. -/
theorem plain_of_flatMap_eq {chars : List Char} (same : chars.flatMap encodeChar = chars) :
    ∀ char ∈ chars, isPlain char := by
  induction chars with
  | nil => simp
  | cons char chars ih =>
      have plain : isPlain char := by
        by_contra other
        have grown := three_le_length_encodeChar other
        have rest := length_le_length_flatMap chars
        have lengths := congrArg List.length same
        simp only [List.flatMap_cons, List.length_append, List.length_cons] at lengths
        omega
      rw [List.flatMap_cons, encodeChar_of_plain plain] at same
      have tails : chars.flatMap encodeChar = chars := by simpa using same
      intro other member
      rcases List.mem_cons.mp member with rfl | member
      · exact plain
      · exact ih tails other member

theorem encodeSegment_of_isPlainSegment {segment : List Char} (plain : IsPlainSegment segment) :
    encodeSegment segment = segment := by
  simp [encodeSegment, plain.not_dot, plain.not_dots, flatMap_encodeChar_of_plain plain.plain]

theorem isPlainSegment_of_encodeSegment_eq {segment : List Char} (nonempty : segment ≠ [])
    (same : encodeSegment segment = segment) : IsPlainSegment segment := by
  have not_dot : segment ≠ ['.'] := by
    rintro rfl
    exact absurd same (by decide)
  have not_dots : segment ≠ ['.', '.'] := by
    rintro rfl
    exact absurd same (by decide)
  refine ⟨nonempty, not_dot, not_dots, plain_of_flatMap_eq ?_⟩
  simpa [encodeSegment, not_dot, not_dots] using same

/-- The beginning of a plain segment comes no earlier than what is written for it. -/
theorem encodeSegment_le_of_leads {lead segment : List Char} (plain : IsPlainSegment segment)
    (leads : lead <+: segment) : encodeSegment lead ≤ lead := by
  by_cases dot : lead = ['.']
  · subst dot
    decide
  by_cases dots : lead = ['.', '.']
  · subst dots
    decide
  have kept := flatMap_encodeChar_of_plain fun char member =>
    plain.plain char (leads.subset member)
  simp [encodeSegment, dot, dots, kept]

theorem hexDigit_ne_slash {value : Nat} (small : value < 16) : hexDigit value ≠ '/' := by
  have all : ∀ value : Fin 16, hexDigit value ≠ '/' := by decide
  exact all ⟨value, small⟩

theorem slash_not_mem_percent (byte : UInt8) : '/' ∉ percent byte := by
  have small := byte.toNat_lt
  have high : hexDigit (byte.toNat / 16) ≠ '/' := hexDigit_ne_slash (by omega)
  have low : hexDigit (byte.toNat % 16) ≠ '/' := hexDigit_ne_slash (by omega)
  simp [percent, high.symm, low.symm]

/-- No segment has a slash once it is written. -/
theorem slash_not_mem_encodeSegment (segment : List Char) : '/' ∉ encodeSegment segment := by
  have chars : ∀ char, '/' ∉ encodeChar char := by
    intro char
    rw [encodeChar]
    split
    · next plain =>
        intro member
        obtain rfl : '/' = char := by simpa using member
        exact absurd plain (by decide)
    · simp only [List.mem_flatMap, not_exists, not_and]
      exact fun byte _ => slash_not_mem_percent byte
  rw [encodeSegment]
  split
  · exact slash_not_mem_percent _
  · split
    · simp [slash_not_mem_percent]
    · simp only [List.mem_flatMap, not_exists, not_and]
      exact fun char _ => chars char

theorem toList_ofKey (key : String) :
    (ofKey key).toList =
      ['/'].intercalate
        (((key.toList.splitOn '/').filter fun segment => !segment.isEmpty).map encodeSegment) := by
  simp [ofKey]

theorem filter_map_of_isPlainSegment {segments : List (List Char)}
    (plain : ∀ segment ∈ segments, IsPlainSegment segment) :
    (segments.filter fun segment => !segment.isEmpty).map encodeSegment = segments := by
  have kept : (segments.filter fun segment => !segment.isEmpty) = segments := by
    rw [List.filter_eq_self]
    intro segment member
    simp [(plain segment member).nonempty]
  rw [kept]
  conv_rhs => rw [← List.map_id segments]
  exact List.map_congr_left fun segment member =>
    encodeSegment_of_isPlainSegment (plain segment member)

/-- A non-empty path is its own path exactly if all of its segments are plain. -/
theorem isStable_iff {path : String} (nonempty : path ≠ "") :
    IsStable path ↔ ∀ segment ∈ path.toList.splitOn '/', IsPlainSegment segment := by
  rw [IsStable, ← String.toList_inj, toList_ofKey]
  generalize segments_eq : path.toList.splitOn '/' = segments
  have joined : ['/'].intercalate segments = path.toList := by
    rw [← segments_eq, List.intercalate_splitOn]
  constructor
  · intro same
    let written := (segments.filter fun segment => !segment.isEmpty).map encodeSegment
    have some_written : written ≠ [] := by
      intro none_written
      apply nonempty
      rw [← String.toList_inj, ← same]
      change ['/'].intercalate written = _
      rw [none_written]
      rfl
    have no_slash : ∀ segment ∈ written, '/' ∉ segment := by
      intro segment member
      obtain ⟨source, -, rfl⟩ := List.mem_map.mp member
      exact slash_not_mem_encodeSegment source
    -- Splitting the path again gives back what was written, so writing changed no segment.
    have unchanged : segments = written := by
      rw [← segments_eq, ← same]
      exact List.splitOn_intercalate '/' no_slash some_written
    have lengths : (segments.filter fun segment => !segment.isEmpty).length = segments.length := by
      conv_rhs => rw [unchanged]
      simp [written]
    have all_nonempty := List.length_filter_eq_length_iff.mp lengths
    have kept : (segments.filter fun segment => !segment.isEmpty) = segments :=
      List.filter_eq_self.mpr all_nonempty
    have fixed : segments.map encodeSegment = segments.map id := by
      rw [List.map_id]
      conv_rhs => rw [unchanged]
      simp only [written, kept]
    intro segment member
    refine isPlainSegment_of_encodeSegment_eq ?_ (List.map_inj_left.mp fixed segment member)
    simpa using all_nonempty segment member
  · intro plain
    rw [filter_map_of_isPlainSegment plain, joined]

theorem isStable_empty : IsStable "" := by
  decide

theorem intercalate_append_singleton {segments : List (List Char)} (nonempty : segments ≠ [])
    (last : List Char) :
    ['/'].intercalate (segments ++ [last]) = ['/'].intercalate segments ++ '/' :: last := by
  induction segments with
  | nil => contradiction
  | cons segment segments ih =>
      cases segments with
      | nil => simp
      | cons next segments =>
          have tails := ih (List.cons_ne_nil next segments)
          simp only [List.cons_append] at tails
          simp [tails]

/-- The segments before a slash are segments of the whole path. -/
theorem isPlainSegment_before_slash {path base rest : List Char}
    (plain : ∀ segment ∈ path.splitOn '/', IsPlainSegment segment)
    (split : path = base ++ '/' :: rest) :
    ∀ segment ∈ base.splitOn '/', IsPlainSegment segment := by
  intro segment member
  apply plain
  rw [split, List.splitOn_append_cons_self]
  exact List.mem_append_left _ member

/-- A text without a slash is the beginning of the first segment of what it leads. -/
theorem exists_splitOn_append {lead : List Char} (rest : List Char) (whole : '/' ∉ lead) :
    ∃ more others, (lead ++ rest).splitOn '/' = (lead ++ more) :: others := by
  induction lead with
  | nil =>
      obtain ⟨more, others, split⟩ :=
        List.exists_cons_of_ne_nil (List.splitOn_ne_nil '/' rest)
      exact ⟨more, others, by simpa using split⟩
  | cons char lead ih =>
      rw [List.mem_cons, not_or] at whole
      obtain ⟨more, others, split⟩ := ih whole.2
      refine ⟨more, others, ?_⟩
      rw [List.cons_append, List.splitOn_cons_eq_if_modifyHead, split]
      simp [Ne.symm whole.1]

/-- What is written for the beginning of a segment comes no later than the beginning itself. -/
theorem encode_last_le {lead rest : List Char} (whole : '/' ∉ lead)
    (plain : ∀ segment ∈ (lead ++ rest).splitOn '/', IsPlainSegment segment) :
    encodeSegment lead ≤ lead := by
  obtain ⟨more, others, split⟩ := exists_splitOn_append rest whole
  rw [split] at plain
  exact encodeSegment_le_of_leads (plain _ List.mem_cons_self) (List.prefix_append lead more)

/-- A text that leads a stable path comes no earlier than its own path. -/
theorem ofKey_le_of_leads {lead path : String} (stable : IsStable path)
    (leads : lead.toList <+: path.toList) : ofKey lead ≤ lead := by
  by_cases empty : path = ""
  · obtain rfl : lead = "" := by simpa [empty] using leads
    exact le_of_eq isStable_empty
  have plain := (isStable_iff empty).mp stable
  obtain ⟨rest, whole⟩ := leads
  rw [String.le_iff_toList_le, toList_ofKey]
  cases cut : Text.beforeLast? '/' lead.toList with
  | none =>
      have single := Text.beforeLast?_eq_none_iff.mp cut
      rw [List.splitOn_eq_singleton single]
      rw [← whole] at plain
      by_cases blank : lead.toList = []
      · simp [blank]
      · simpa [blank] using encode_last_le single plain
  | some base =>
      obtain ⟨tail, split, single⟩ := Text.exists_of_beforeLast? cut
      have path_split : path.toList = base ++ '/' :: (tail ++ rest) := by
        rw [← whole, split]
        simp
      have base_plain := isPlainSegment_before_slash plain path_split
      have tail_plain : ∀ segment ∈ (tail ++ rest).splitOn '/', IsPlainSegment segment := by
        intro segment member
        apply plain
        rw [path_split, List.splitOn_append_cons_self]
        exact List.mem_append_right _ member
      rw [split, List.splitOn_append_cons_self, List.splitOn_eq_singleton single,
        List.filter_append, List.map_append, filter_map_of_isPlainSegment base_plain]
      by_cases blank : tail = []
      · have shorter : base ≤ base ++ ['/'] := Text.chars_le_of_leads (List.prefix_append _ _)
        simpa [blank] using shorter
      · have last : '/' :: encodeSegment tail ≤ '/' :: tail :=
          Text.append_le_append ['/'] (encode_last_le single tail_plain)
        have kept : ([tail].filter fun segment => !segment.isEmpty) = [tail] := by simp [blank]
        rw [kept, List.map_cons, List.map_nil,
          intercalate_append_singleton (List.splitOn_ne_nil _ _), List.intercalate_splitOn]
        exact Text.append_le_append base last

/-- What a stable path has before one of its slashes is stable. -/
theorem isStable_of_slash {base rest path : String} (stable : IsStable path)
    (split : path.toList = base.toList ++ '/' :: rest.toList) : IsStable base ∧ base ≠ "" := by
  have nonempty : path ≠ "" := by
    rintro rfl
    simp at split
  have plain := isPlainSegment_before_slash ((isStable_iff nonempty).mp stable) split
  have base_nonempty : base ≠ "" := by
    rintro rfl
    exact (plain [] (by simp)).nonempty rfl
  exact ⟨(isStable_iff base_nonempty).mpr plain, base_nonempty⟩

/-- A path that some key is stored at. -/
def IsPath (path : String) : Prop :=
  ∃ key, ofKey key = path

theorem encodeSegment_ne_nil {segment : List Char} (nonempty : segment ≠ []) :
    encodeSegment segment ≠ [] := by
  rw [encodeSegment]
  split
  · exact List.cons_ne_nil _ _
  · split
    · exact List.cons_ne_nil _ _
    · have grown := length_le_length_flatMap segment
      have positive := List.length_pos_of_ne_nil nonempty
      exact List.ne_nil_of_length_pos (by omega)

/-- What is written for segments are the segments of the path that they are joined to. -/
theorem splitOn_intercalate_map {segments : List (List Char)} (some_segments : segments ≠ []) :
    (['/'].intercalate (segments.map encodeSegment)).splitOn '/' =
      segments.map encodeSegment := by
  refine List.splitOn_intercalate '/' ?_ (by simpa using some_segments)
  intro written member
  obtain ⟨segment, -, rfl⟩ := List.mem_map.mp member
  exact slash_not_mem_encodeSegment segment

/-- No segment of a path is empty. -/
theorem IsPath.ne_nil_of_mem_splitOn {path : String} (is_path : IsPath path) (nonempty : path ≠ "")
    {segment : List Char} (member : segment ∈ path.toList.splitOn '/') : segment ≠ [] := by
  obtain ⟨key, rfl⟩ := is_path
  rw [toList_ofKey] at member
  have some_segments :
      ((key.toList.splitOn '/').filter fun segment => !segment.isEmpty) ≠ [] := by
    intro none_left
    exact nonempty (by simp [← String.toList_inj, toList_ofKey, none_left])
  rw [splitOn_intercalate_map some_segments] at member
  obtain ⟨source, source_member, rfl⟩ := List.mem_map.mp member
  exact encodeSegment_ne_nil (by simpa using (List.mem_filter.mp source_member).2)

/-- A base that leads a path by whole segments, and whose own path lies above it too, is its own
path: both are as many of the segments of the path. -/
theorem isStable_of_isBelow {base path : String} {rest : List Char} (is_path : IsPath path)
    (split : path.toList = base.toList ++ '/' :: rest) (below : isBelow (ofKey base) path) :
    IsStable base := by
  have nonempty : path ≠ "" := by
    rintro rfl
    simp at split
  have segments_eq : path.toList.splitOn '/' =
      base.toList.splitOn '/' ++ rest.splitOn '/' := by
    rw [split, List.splitOn_append_cons_self]
  have some_chars : ∀ segment ∈ base.toList.splitOn '/', segment ≠ [] := by
    intro segment member
    refine is_path.ne_nil_of_mem_splitOn nonempty ?_
    rw [segments_eq]
    exact List.mem_append_left _ member
  have kept : ((base.toList.splitOn '/').filter fun segment => !segment.isEmpty) =
      base.toList.splitOn '/' := by
    rw [List.filter_eq_self]
    intro segment member
    simpa using some_chars segment member
  have written : (ofKey base).toList.splitOn '/' =
      (base.toList.splitOn '/').map encodeSegment := by
    rw [toList_ofKey, kept, splitOn_intercalate_map (List.splitOn_ne_nil '/' _)]
  have base_path : ofKey base ≠ "" := by
    intro empty
    have blank : [] ∈ (base.toList.splitOn '/').map encodeSegment := by
      rw [← written, empty]
      simp
    obtain ⟨segment, member, erased⟩ := List.mem_map.mp blank
    exact encodeSegment_ne_nil (some_chars segment member) erased
  obtain ⟨later, found⟩ : ∃ later, Text.withoutLead? (ofKey base ++ "/") path = some later := by
    simpa [isBelow, base_path, Option.isSome_iff_exists] using below
  have path_eq := Text.withoutLead?_eq_some_iff.mp found
  have written_eq : path.toList.splitOn '/' =
      (base.toList.splitOn '/').map encodeSegment ++ later.toList.splitOn '/' := by
    rw [← written, ← List.splitOn_append_cons_self, path_eq]
    simp
  have same : base.toList.splitOn '/' = (base.toList.splitOn '/').map encodeSegment :=
    List.append_inj_left (segments_eq.symm.trans written_eq) (by simp)
  rw [IsStable, ← String.toList_inj, toList_ofKey, kept, ← same, List.intercalate_splitOn]

end StoredPath
end BucketCatalog
