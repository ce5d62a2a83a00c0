import BucketCatalog.Partition
import BucketCatalog.Proofs.Date
import BucketCatalog.Proofs.Text

/-!
# Stamps

The stamp of an instant is its date and time of day with all numbers padded to fixed widths, the
larger units first.  As long as years have four digits, stamps are in byte order as the instants
are in time, cut to microseconds; and so are the sentinels of one kind of miss.
-/

namespace BucketCatalog
namespace Instant

/-- A date as stamps begin with it, before a text. -/
def dateText (date : Date) (rest : List Char) : List Char :=
  (Text.padded 4 date.year.toNat).toList ++ ((Text.padded 2 date.month).toList ++
    ((Text.padded 2 date.day).toList ++ rest))

/-- The microseconds since midnight as stamps end with them, before a text. -/
def timeText (time : Nat) (rest : List Char) : List Char :=
  'T' :: ((Text.padded 2 (time / 3600000000)).toList ++
    ((Text.padded 2 (time / 60000000 % 60)).toList ++
      ((Text.padded 2 (time / 1000000 % 60)).toList ++
        '.' :: ((Text.padded 6 (time % 1000000)).toList ++ 'Z' :: rest))))

/-- The year of an instant has at most four digits and comes after the year 0. -/
def HasFullYear (instant : Instant) : Prop :=
  1 ≤ instant.date.year ∧ instant.date.year ≤ 9999

theorem toList_stamp_append (instant : Instant) (rest : List Char) :
    instant.stamp.toList ++ rest =
      dateText instant.date (timeText instant.microsecondOfDay rest) := by
  simp [stamp, dateText, timeText]

theorem microsecondOfDay_lt (instant : Instant) : instant.microsecondOfDay < 86400000000 := by
  rw [microsecondOfDay, Int.fmod_eq_emod_of_nonneg _ (by decide)]
  omega

theorem timeText_lt_timeText {first second : Nat} (order : first < second)
    (inside : second < 86400000000) (left right : List Char) :
    timeText first left < timeText second right := by
  refine List.cons_lt_cons_iff.mpr (.inr ⟨rfl, ?_⟩)
  apply Text.padded_append_lt (by decide) (by omega) (by omega)
  by_cases hours : first / 3600000000 = second / 3600000000
  · refine .inr ⟨hours, Text.padded_append_lt (by decide) (by omega) (by omega) ?_⟩
    by_cases minutes : first / 60000000 % 60 = second / 60000000 % 60
    · refine .inr ⟨minutes, Text.padded_append_lt (by decide) (by omega) (by omega) ?_⟩
      by_cases seconds : first / 1000000 % 60 = second / 1000000 % 60
      · refine .inr ⟨seconds, List.cons_lt_cons_iff.mpr (.inr ⟨rfl, ?_⟩)⟩
        exact Text.padded_append_lt (by decide) (by omega) (by omega) (.inl (by omega))
      · exact .inl (by omega)
    · exact .inl (by omega)
  · exact .inl (by omega)

theorem dateText_lt_dateText {first second : Date} (order : first.IsBefore second)
    (first_year : 0 ≤ first.year) (second_year : second.year ≤ 9999)
    (first_bounds : first.month ≤ 12 ∧ first.day ≤ 31)
    (second_bounds : second.month ≤ 12 ∧ second.day ≤ 31) (left right : List Char) :
    dateText first left < dateText second right := by
  have year_le : first.year ≤ second.year := by
    simp only [Date.IsBefore] at order
    omega
  apply Text.padded_append_lt (by decide) (by omega) (by omega)
  obtain years | ⟨years, later⟩ := order
  · exact .inl (by omega)
  refine .inr ⟨by rw [years], Text.padded_append_lt (by decide) (by omega) (by omega) ?_⟩
  obtain months | ⟨months, days⟩ := later
  · exact .inl months
  · exact .inr ⟨months, Text.padded_append_lt (by decide) (by omega) (by omega) (.inl days)⟩

/-- Stamps are ordered before anything that they are followed by. -/
theorem stamp_append_lt {first second : Instant}
    (order : first.microseconds < second.microseconds) (first_year : first.HasFullYear)
    (second_year : second.HasFullYear) (left right : List Char) :
    first.stamp.toList ++ left < second.stamp.toList ++ right := by
  rw [toList_stamp_append, toList_stamp_append]
  have days_le : first.microseconds.fdiv 86400000000 ≤ second.microseconds.fdiv 86400000000 := by
    rw [Int.fdiv_eq_ediv_of_nonneg _ (by decide), Int.fdiv_eq_ediv_of_nonneg _ (by decide)]
    omega
  obtain days | days := days_le.lt_or_eq
  · apply dateText_lt_dateText (Date.isBefore_ofDays days)
    · exact le_trans (by decide) first_year.1
    · exact second_year.2
    · exact Date.ofDays_bounds _
    · exact Date.ofDays_bounds _
  · have dates : first.date = second.date := congrArg Date.ofDays days
    have times : first.microsecondOfDay < second.microsecondOfDay := by
      rw [Int.fdiv_eq_ediv_of_nonneg _ (by decide),
        Int.fdiv_eq_ediv_of_nonneg _ (by decide)] at days
      rw [microsecondOfDay, microsecondOfDay, Int.fmod_eq_emod_of_nonneg _ (by decide),
        Int.fmod_eq_emod_of_nonneg _ (by decide)]
      omega
    rw [dates]
    apply List.append_left_lt
    apply List.append_left_lt
    apply List.append_left_lt
    exact timeText_lt_timeText times second.microsecondOfDay_lt left right

theorem stamp_eq_stamp {first second : Instant}
    (same : first.microseconds = second.microseconds) : first.stamp = second.stamp := by
  simp only [stamp, date, microsecondOfDay, same]

theorem utf8ByteSize_stamp {instant : Instant} (full_year : instant.HasFullYear) :
    instant.stamp.utf8ByteSize = 23 := by
  have year := full_year.2
  have bounds : instant.date.month ≤ 12 ∧ instant.date.day ≤ 31 := Date.ofDays_bounds _
  have time := instant.microsecondOfDay_lt
  have pair {number : Nat} (fits : number < 100) : (Text.padded 2 number).utf8ByteSize = 2 :=
    Text.utf8ByteSize_padded (by decide) fits
  have years : (Text.padded 4 instant.date.year.toNat).utf8ByteSize = 4 :=
    Text.utf8ByteSize_padded (by decide) (by omega)
  have fraction : (Text.padded 6 (instant.microsecondOfDay % 1000000)).utf8ByteSize = 6 :=
    Text.utf8ByteSize_padded (by decide) (by omega)
  simp only [stamp, String.utf8ByteSize_append, years, fraction]
  rw [pair (by omega), pair (by omega), pair (by omega), pair (by omega), pair (by omega)]
  rfl

/-- What gives an earlier text for an earlier number keeps the order both ways. -/
theorem order_iff {first second : Int} {left right : String} (up : first < second → left < right)
    (down : second < first → right < left) (same : first = second → left = right) :
    (left < right ↔ first < second) ∧ (left = right ↔ first = second) := by
  obtain earlier | equal | later := lt_trichotomy first second
  · exact ⟨iff_of_true (up earlier) earlier, iff_of_false (up earlier).ne earlier.ne⟩
  · exact ⟨iff_of_false (same equal).not_lt equal.not_lt, iff_of_true (same equal) equal⟩
  · exact ⟨iff_of_false (down later).not_gt later.not_gt, iff_of_false (down later).ne' later.ne'⟩

/--
Stamps of years with four digits have 23 bytes each.  They are in byte order as the instants are in
time, and equal for instants of the same microsecond; so the sentinels of one kind of miss, which
begin with them, are in the order of their instants too.
-/
theorem stamps_sort_like_time {first second : Instant} (first_year : first.HasFullYear)
    (second_year : second.HasFullYear) :
    (first.stamp.utf8ByteSize = 23 ∧ second.stamp.utf8ByteSize = 23) ∧
      (first.stamp < second.stamp ↔ first.microseconds < second.microseconds) ∧
      (first.stamp = second.stamp ↔ first.microseconds = second.microseconds) ∧
      ∀ miss,
        (PartitionId.sentinel first miss).text = first.stamp ++ miss.suffix ∧
        ((PartitionId.sentinel first miss).text < (PartitionId.sentinel second miss).text ↔
          first.microseconds < second.microseconds) := by
  have sentinels : ∀ suffix : String,
      (first.stamp ++ suffix < second.stamp ++ suffix ↔
          first.microseconds < second.microseconds) ∧
        (first.stamp ++ suffix = second.stamp ++ suffix ↔
          first.microseconds = second.microseconds) := by
    intro suffix
    apply order_iff
    · intro earlier
      rw [String.lt_iff_toList_lt, String.toList_append, String.toList_append]
      exact stamp_append_lt earlier first_year second_year _ _
    · intro later
      rw [String.lt_iff_toList_lt, String.toList_append, String.toList_append]
      exact stamp_append_lt later second_year first_year _ _
    · intro same
      rw [stamp_eq_stamp same]
  have stamps := sentinels ""
  rw [String.append_empty, String.append_empty] at stamps
  exact ⟨⟨utf8ByteSize_stamp first_year, utf8ByteSize_stamp second_year⟩, stamps.1, stamps.2,
    fun miss => ⟨rfl, (sentinels miss.suffix).1⟩⟩

/-- The last nanosecond of a leap day long before 1970. -/
def lastOfLeapDay : Instant :=
  ofParts (-11670912001) 999999999

/-- The nanosecond after it. -/
def firstOfMarch : Instant :=
  ofParts (-11670912000) 0

theorem stamps_sort_like_time_leap_day :
    lastOfLeapDay.HasFullYear ∧ firstOfMarch.HasFullYear ∧
      lastOfLeapDay.stamp = "16000229T235959.999999Z" ∧
      firstOfMarch.stamp = "16000301T000000.000000Z" ∧
      (PartitionId.sentinel lastOfLeapDay .noMatch).text <
        (PartitionId.sentinel firstOfMarch .noMatch).text := by
  have first_year : lastOfLeapDay.HasFullYear := ⟨by decide, by decide⟩
  have second_year : firstOfMarch.HasFullYear := ⟨by decide, by decide⟩
  obtain ⟨-, -, -, sentinels⟩ := stamps_sort_like_time first_year second_year
  exact ⟨first_year, second_year, rfl, rfl, (sentinels .noMatch).2.mpr (by decide)⟩

end Instant
end BucketCatalog
