import BucketCatalog.Text
import Mathlib.Data.String.Basic

/-!
# Leading texts, cuts and byte order

A text comes before every text that it leads, and what lies between the two in byte order is led by
it as well.  The cuts of `Text` are described by where they cut: `splitFirst` at the first place at
which the mark stands, `beforeLast?` at the last.  Numbers that are padded to the same width are in
byte order.
-/

namespace BucketCatalog
namespace Text

theorem chars_le_of_leads {lead text : List Char} (leads : lead <+: text) : lead ≤ text := by
  rw [← not_lt]
  exact leads.le

theorem append_le_append {first second : List Char} (lead : List Char) (order : first ≤ second) :
    lead ++ first ≤ lead ++ second := by
  rw [← not_lt] at order ⊢
  exact List.append_left_le order

/-- Texts of the same length are ordered before anything that they are followed by. -/
theorem append_lt_append_of_lt {first second : List Char} (order : first < second)
    (lengths : first.length = second.length) (left right : List Char) :
    first ++ left < second ++ right := by
  induction first generalizing second with
  | nil =>
      obtain rfl := List.length_eq_zero_iff.mp lengths.symm
      exact absurd order (List.not_lt_nil [])
  | cons char first ih =>
      cases second with
      | nil => simp at lengths
      | cons other second =>
          simp only [List.cons_append, List.cons_lt_cons_iff] at order ⊢
          exact order.imp_right fun ⟨same, tails⟩ => ⟨same, ih tails (by simpa using lengths)⟩

/-- A text comes no later than a text that it leads. -/
theorem le_of_leads {lead text : String} (leads : lead.toList <+: text.toList) : lead ≤ text :=
  String.le_iff_toList_le.mpr (chars_le_of_leads leads)

private theorem leads_of_between_chars {first second third : List Char} (leads : first <+: third)
    (lower : first ≤ second) (upper : second ≤ third) : first <+: second := by
  induction first generalizing second third with
  | nil => exact List.nil_prefix
  | cons char first ih =>
      obtain ⟨rest, rfl⟩ := leads
      cases second with
      | nil => exact absurd lower (not_le_of_gt (List.nil_lt_cons char first))
      | cons other second =>
          rw [← not_lt, List.cons_append, List.cons_lt_cons_iff, not_or, not_and] at upper
          rw [← not_lt, List.cons_lt_cons_iff, not_or, not_and] at lower
          obtain rfl : char = other :=
            le_antisymm (not_lt.mp lower.1) (not_lt.mp upper.1)
          have tails : first <+: second :=
            ih ⟨rest, rfl⟩ (not_lt.mp (lower.2 rfl)) (not_lt.mp (upper.2 rfl))
          exact List.cons_prefix_cons.mpr ⟨rfl, tails⟩

/-- What lies between a text and a text that it leads is led by it. -/
theorem leads_of_between {first second third : String} (leads : first.toList <+: third.toList)
    (lower : first ≤ second) (upper : second ≤ third) : first.toList <+: second.toList :=
  leads_of_between_chars leads (String.le_iff_toList_le.mp lower)
    (String.le_iff_toList_le.mp upper)

theorem dropLead?_eq_none_iff {lead text : List Char} :
    dropLead? lead text = none ↔ ¬lead <+: text := by
  constructor
  · rintro missing ⟨rest, rfl⟩
    have found : dropLead? lead (lead ++ rest) = some rest := dropLead?_eq_some_iff.mpr rfl
    simp [missing] at found
  · intro apart
    cases cut : dropLead? lead text with
    | none => rfl
    | some rest => exact absurd ⟨rest, (dropLead?_eq_some_iff.mp cut).symm⟩ apart

/-- The mark of a cut stands nowhere in a text that cannot be cut. -/
theorem splitFirst_eq_none_iff {mark text : List Char} :
    splitFirst mark text = none ↔ ∀ before, ¬before ++ mark <+: text := by
  induction text with
  | nil => simp [splitFirst]
  | cons char text ih =>
      rw [splitFirst]
      cases cut : dropLead? mark (char :: text) with
      | some rest =>
          have leads : mark <+: char :: text :=
            ⟨rest, (dropLead?_eq_some_iff.mp cut).symm⟩
          simpa using ⟨[], leads⟩
      | none =>
          have apart := dropLead?_eq_none_iff.mp cut
          simp only [Option.map_eq_none_iff, ih]
          constructor
          · intro nowhere before
            cases before with
            | nil => exact apart
            | cons head before =>
                intro stands
                exact nowhere before (List.cons_prefix_cons.mp stands).2
          · intro nowhere before stands
            exact nowhere (char :: before) (List.cons_prefix_cons.mpr ⟨rfl, stands⟩)

/-- A character at the end of a text does not matter to where the text is cut at another. -/
theorem splitFirst_append {mark char : Char} (other : mark ≠ char) (text : List Char) :
    splitFirst [mark] (text ++ [char]) =
      (splitFirst [mark] text).map fun parts => (parts.1, parts.2 ++ [char]) := by
  induction text with
  | nil => simp [splitFirst, dropLead?, other]
  | cons first text ih =>
      simp only [List.cons_append, splitFirst, dropLead?]
      by_cases same : mark = first
      · simp [same]
      · simp [same, ih, Function.comp_def]

/-- No place before a cut has the mark. -/
theorem length_le_of_splitFirst {mark text before after earlier : List Char}
    (cut : splitFirst mark text = some (before, after)) (stands : earlier ++ mark <+: text) :
    before.length ≤ earlier.length := by
  induction text generalizing before earlier with
  | nil =>
      have whole := eq_of_splitFirst cut
      simp only [List.nil_eq, List.append_eq_nil_iff] at whole
      simp [whole.1.1]
  | cons char text ih =>
      rw [splitFirst] at cut
      cases lead : dropLead? mark (char :: text) with
      | some rest =>
          simp only [lead, Option.some.injEq, Prod.mk.injEq] at cut
          simp [← cut.1]
      | none =>
          simp only [lead, Option.map_eq_some_iff, Prod.mk.injEq] at cut
          obtain ⟨⟨first, second⟩, found, rfl, rfl⟩ := cut
          cases earlier with
          | nil => exact absurd stands (dropLead?_eq_none_iff.mp lead)
          | cons head earlier =>
              have bound := ih found (List.cons_prefix_cons.mp stands).2
              simpa using bound

/-- What is before a cut does not have the mark. -/
theorem not_stands_before_splitFirst {mark text before after : List Char} (marked : mark ≠ [])
    (cut : splitFirst mark text = some (before, after)) (earlier : List Char) :
    ¬earlier ++ mark <+: before := by
  intro stands
  have leads : before <+: text := ⟨mark ++ after, by rw [eq_of_splitFirst cut, List.append_assoc]⟩
  have bound := length_le_of_splitFirst cut (stands.trans leads)
  have longer := stands.length_le
  have mark_length := List.length_pos_of_ne_nil marked
  rw [List.length_append] at longer
  omega

/-- A cut is made at the first place at which the mark stands. -/
theorem splitFirst_eq_some_iff {mark text before after : List Char} :
    splitFirst mark text = some (before, after) ↔
      text = before ++ mark ++ after ∧
        ∀ earlier, earlier ++ mark <+: text → before.length ≤ earlier.length := by
  constructor
  · intro cut
    exact ⟨eq_of_splitFirst cut, fun _ stands => length_le_of_splitFirst cut stands⟩
  · rintro ⟨whole, first⟩
    cases cut : splitFirst mark text with
    | none => exact absurd ⟨after, whole.symm⟩ (splitFirst_eq_none_iff.mp cut before)
    | some parts =>
        obtain ⟨other, rest⟩ := parts
        have same := whole.symm.trans (eq_of_splitFirst cut)
        have lengths : before.length = other.length :=
          le_antisymm (first other ⟨rest, (eq_of_splitFirst cut).symm⟩)
            (length_le_of_splitFirst cut ⟨after, whole.symm⟩)
        rw [List.append_assoc, List.append_assoc] at same
        obtain ⟨rfl, tails⟩ := List.append_inj same lengths
        rw [List.append_cancel_left tails]

/-- A text that starts with another up to its cut is cut at the same place. -/
theorem splitFirst_of_leads {mark text other before after : List Char}
    (cut : splitFirst mark text = some (before, after)) (leads : before ++ mark <+: other) :
    ∃ rest, splitFirst mark other = some (before, rest) := by
  obtain ⟨rest, rfl⟩ := leads
  refine ⟨rest, splitFirst_eq_some_iff.mpr ⟨rfl, fun earlier stands => ?_⟩⟩
  by_contra shorter
  have inside : earlier ++ mark <+: before ++ mark := by
    apply List.prefix_of_prefix_length_le stands ⟨rest, rfl⟩
    simp only [List.length_append]
    omega
  have within : before ++ mark <+: text := ⟨after, (eq_of_splitFirst cut).symm⟩
  exact shorter (length_le_of_splitFirst cut (inside.trans within))

theorem beforeLast?_eq_none_iff {mark : Char} {text : List Char} :
    beforeLast? mark text = none ↔ mark ∉ text := by
  induction text with
  | nil => simp [beforeLast?]
  | cons char text ih =>
      rw [beforeLast?]
      cases cut : beforeLast? mark text with
      | some before =>
          have inside : mark ∈ text := by
            by_contra missing
            simp [ih.mpr missing] at cut
          simp [inside]
      | none =>
          have outside := ih.mp cut
          simp [outside, eq_comm]

/-- A text is the part before the last place of a mark, the mark, and a part without it. -/
theorem exists_of_beforeLast? {mark : Char} {text before : List Char}
    (cut : beforeLast? mark text = some before) :
    ∃ after, text = before ++ mark :: after ∧ mark ∉ after := by
  induction text generalizing before with
  | nil => simp [beforeLast?] at cut
  | cons char text ih =>
      rw [beforeLast?] at cut
      cases deeper : beforeLast? mark text with
      | some inner =>
          simp only [deeper, Option.some.injEq] at cut
          obtain ⟨after, rfl, outside⟩ := ih deeper
          exact ⟨after, by simp [← cut], outside⟩
      | none =>
          simp only [deeper, Option.ite_none_right_eq_some, Option.some.injEq] at cut
          obtain ⟨rfl, rfl⟩ := cut
          exact ⟨text, rfl, beforeLast?_eq_none_iff.mp deeper⟩

theorem endsWith_iff {tail text : String} :
    endsWith tail text = true ↔ tail.toList <:+ text.toList := by
  rw [endsWith, ← List.reverse_prefix, Option.isSome_iff_ne_none, ne_eq, dropLead?_eq_none_iff,
    not_not]

/-! ## Padded numbers -/

theorem toList_padded_one {number : Nat} (fits : number < 10) :
    (padded 1 number).toList = [Nat.digitChar number] := by
  simp [padded, Nat.toDigits_of_lt_base fits]

theorem toList_padded_succ {width number : Nat} (positive : 0 < width)
    (fits : number < 10 ^ (width + 1)) :
    (padded (width + 1) number).toList =
      (padded width (number / 10)).toList ++ [Nat.digitChar (number % 10)] := by
  by_cases small : number < 10
  · have zero : number / 10 = 0 := Nat.div_eq_of_lt small
    obtain ⟨width, rfl⟩ := Nat.exists_eq_add_of_lt positive
    simp [padded, Nat.toDigits_of_lt_base small, zero, Nat.mod_eq_of_lt small,
      ← List.replicate_succ']
  · rw [padded, padded, Nat.toDigits_of_base_le (by decide) (by omega)]
    simp

theorem length_padded {width number : Nat} (positive : 0 < width) (fits : number < 10 ^ width) :
    (padded width number).toList.length = width := by
  have digits := (Nat.length_toDigits_le_iff (by decide) positive).mpr fits
  simp only [padded, String.toList_ofList, List.length_append, List.length_replicate]
  omega

theorem digitChar_lt_digitChar {first second : Nat} (order : first < second)
    (digit : second < 10) : Nat.digitChar first < Nat.digitChar second := by
  change (Nat.digitChar first).toNat < (Nat.digitChar second).toNat
  rw [Nat.toNat_digitChar_of_lt_ten (by omega), Nat.toNat_digitChar_of_lt_ten digit]
  omega

/-- Padded to the same length, numbers are in byte order. -/
theorem padded_lt_padded {width first second : Nat} (positive : 0 < width)
    (order : first < second) (fits : second < 10 ^ width) :
    (padded width first).toList < (padded width second).toList := by
  induction width, positive using Nat.le_induction generalizing first second with
  | base =>
      have digit : second < 10 := by omega
      rw [toList_padded_one (by omega), toList_padded_one digit]
      exact List.cons_lt_cons_iff.mpr (.inl (digitChar_lt_digitChar order digit))
  | succ width positive ih =>
      have fits_first : first < 10 ^ (width + 1) := by omega
      have leading : second / 10 < 10 ^ width := by
        rw [Nat.pow_succ] at fits
        omega
      rw [toList_padded_succ positive fits_first, toList_padded_succ positive fits]
      by_cases same : first / 10 = second / 10
      · have last : first % 10 < second % 10 := by omega
        rw [same]
        exact List.append_left_lt
          (List.cons_lt_cons_iff.mpr (.inl (digitChar_lt_digitChar last (by omega))))
      · have earlier : first / 10 < second / 10 := by omega
        apply append_lt_append_of_lt (ih earlier leading)
        rw [length_padded positive (by omega), length_padded positive leading]

/-- Texts that begin with padded numbers are ordered by these before anything else. -/
theorem padded_append_lt {width first second : Nat} {left right : List Char} (positive : 0 < width)
    (fits_first : first < 10 ^ width) (fits_second : second < 10 ^ width)
    (order : first < second ∨ first = second ∧ left < right) :
    (padded width first).toList ++ left < (padded width second).toList ++ right := by
  obtain earlier | ⟨rfl, tails⟩ := order
  · apply append_lt_append_of_lt (padded_lt_padded positive earlier fits_second)
    rw [length_padded positive fits_first, length_padded positive fits_second]
  · exact List.append_left_lt tails

theorem utf8Len_of_digits {chars : List Char} (digits : ∀ char ∈ chars, char.isDigit) :
    String.utf8Len chars = chars.length := by
  induction chars with
  | nil => rfl
  | cons char chars ih =>
      have single : char.utf8Size = 1 := by
        have digit := digits char List.mem_cons_self
        simp only [Char.isDigit, Bool.and_eq_true, decide_eq_true_eq] at digit
        exact Char.utf8Size_eq_one_iff.mpr (UInt32.le_trans digit.2 (by decide))
      rw [String.utf8Len_cons, ih fun other member => digits other (List.mem_cons_of_mem _ member),
        single, List.length_cons]

theorem utf8ByteSize_padded {width number : Nat} (positive : 0 < width)
    (fits : number < 10 ^ width) : (padded width number).utf8ByteSize = width := by
  have digits : ∀ char ∈ (padded width number).toList, char.isDigit := by
    intro char member
    simp only [padded, String.toList_ofList, List.mem_append, List.mem_replicate] at member
    obtain ⟨-, rfl⟩ | member := member
    · rfl
    · exact Nat.isDigit_of_mem_toDigits (by decide) (by decide) member
  rw [← String.ofList_toList (s := padded width number), String.utf8ByteSize_ofList,
    utf8Len_of_digits digits, length_padded positive fits]

end Text
end BucketCatalog
