import BucketCatalog.Text
import Mathlib.Data.String.Basic
import Mathlib.Tactic.IntervalCases

/-!
# Byte order

Texts are ordered by their characters, stores order them by their bytes, and the two orders are the
same.  A character is encoded by its digits to the base 64, with marks that say how many bytes there
are.  Of two characters the earlier has no more bytes; with fewer it has the smaller mark, and with
as many the first digit in which they differ decides.
-/

namespace BucketCatalog
namespace Text

/-- The bytes of a text in UTF-8. -/
def bytes (text : String) : List UInt8 :=
  text.toUTF8.data.toList

theorem bytes_eq_flatMap (text : String) :
    bytes text = text.toList.flatMap String.utf8EncodeChar := by
  rw [bytes, String.toUTF8_eq_toByteArray, ← String.utf8Encode_toList, List.utf8Encode,
    List.toList_data_toByteArray]

theorem ofNat_lt_ofNat {first second : Nat} (fits : second < 256) (order : first < second) :
    UInt8.ofNat first < UInt8.ofNat second := by
  rw [UInt8.lt_iff_toNat_lt, UInt8.toNat_ofNat', UInt8.toNat_ofNat', Nat.mod_eq_of_lt fits,
    Nat.mod_eq_of_lt (order.trans fits)]
  exact order

/-- The last digits of a number to the base 64, as the bytes after the first. -/
def continuation : Nat → Nat → List UInt8
  | 0, _ => []
  | count + 1, value =>
      UInt8.ofNat (value / 64 ^ count % 64 + 128) :: continuation count value

/-- The mark of a first byte that a number of others come after. -/
def leadMark : Nat → Nat
  | 0 => 0
  | 1 => 192
  | 2 => 224
  | _ => 240

/-- The first number that does not fit a first byte and a number of others. -/
def ceiling : Nat → Nat
  | 0 => 0x80
  | 1 => 0x800
  | 2 => 0x10000
  | _ => 0x110000

/-- A number is encoded by a first byte and `count` others. -/
structure Encodes (count value : Nat) (encoded : List UInt8) : Prop where
  /-- There are at most three others. -/
  few : count < 4
  /-- The number does not fit fewer. -/
  needed : ∀ fewer < count, ceiling fewer ≤ value
  /-- The number fits. -/
  fits : value < ceiling count
  /-- The digits with their marks. -/
  eq : encoded = UInt8.ofNat (value / 64 ^ count + leadMark count) :: continuation count value

theorem exists_encodes (char : Char) :
    ∃ count, Encodes count char.val.toNat (String.utf8EncodeChar char) := by
  have valid : char.val.toNat < 0x110000 := by
    have valid : char.val.toNat.isValidChar := char.valid
    rw [Nat.isValidChar] at valid
    omega
  simp only [String.utf8EncodeChar]
  generalize char.val.toNat = value at valid
  split
  · next fits =>
      exact ⟨0, by decide, by simp, Nat.lt_succ_of_le fits, by simp [continuation, leadMark]⟩
  split
  · next above fits =>
      refine ⟨1, by decide, fun fewer few => ?_, Nat.lt_succ_of_le fits, ?_⟩
      · interval_cases fewer
        exact not_le.mp above
      · have digit : value / 64 % 32 = value / 64 := by omega
        simp [continuation, leadMark, digit]
  split
  · next low above fits =>
      refine ⟨2, by decide, fun fewer few => ?_, Nat.lt_succ_of_le fits, ?_⟩
      · interval_cases fewer
        · exact not_le.mp low
        · exact not_le.mp above
      · have digit : value / 4096 % 16 = value / 4096 := by omega
        simp [continuation, leadMark, digit]
  · next lowest low above =>
      refine ⟨3, by decide, fun fewer few => ?_, valid, ?_⟩
      · interval_cases fewer
        · exact not_le.mp lowest
        · exact not_le.mp low
        · exact not_le.mp above
      · have digit : value / 262144 % 8 = value / 262144 := by omega
        simp [continuation, leadMark, digit]

theorem lead_lt {count value : Nat} (few : count < 4) (fits : value < ceiling count) :
    value / 64 ^ count + leadMark count < 256 := by
  interval_cases count <;> simp only [ceiling] at fits <;> simp only [leadMark] <;> omega

/-- First bytes tell how many bytes there are. -/
theorem lead_lt_leadMark {count more value : Nat} (few : more < 4) (order : count < more)
    (fits : value < ceiling count) : value / 64 ^ count + leadMark count < leadMark more := by
  interval_cases more <;> interval_cases count <;> simp only [ceiling] at fits <;>
    simp only [leadMark] <;> omega

theorem continuation_append_lt {first second count : Nat} (order : first < second)
    (same : first / 64 ^ count = second / 64 ^ count) (left right : List UInt8) :
    continuation count first ++ left < continuation count second ++ right := by
  induction count with
  | zero =>
      rw [pow_zero, Nat.div_one, Nat.div_one] at same
      exact absurd same order.ne
  | succ count ih =>
      rw [pow_succ, ← Nat.div_div_eq_div_mul, ← Nat.div_div_eq_div_mul] at same
      have grown : first / 64 ^ count ≤ second / 64 ^ count := Nat.div_le_div_right order.le
      rw [continuation, continuation, List.cons_append, List.cons_append, List.cons_lt_cons_iff]
      obtain here | here := grown.lt_or_eq
      · exact .inl (ofNat_lt_ofNat (by omega) (by omega))
      · exact .inr ⟨by rw [here], ih here⟩

theorem Encodes.append_lt {first_count second_count first second : Nat}
    {first_bytes second_bytes : List UInt8} (encodes_first : Encodes first_count first first_bytes)
    (encodes_second : Encodes second_count second second_bytes) (order : first < second)
    (left right : List UInt8) : first_bytes ++ left < second_bytes ++ right := by
  obtain ⟨-, needed, fits, rfl⟩ := encodes_first
  obtain ⟨few, -, fits_second, rfl⟩ := encodes_second
  have no_more : first_count ≤ second_count := by
    by_contra more
    exact absurd (needed second_count (not_le.mp more)) (not_le.mpr (order.trans fits_second))
  have second_lead := lead_lt few fits_second
  rw [List.cons_append, List.cons_append, List.cons_lt_cons_iff]
  obtain fewer | rfl := no_more.lt_or_eq
  · have first_lead := lead_lt_leadMark few fewer fits
    exact .inl (ofNat_lt_ofNat second_lead (first_lead.trans_le (Nat.le_add_left _ _)))
  · have grown : first / 64 ^ first_count ≤ second / 64 ^ first_count :=
      Nat.div_le_div_right order.le
    obtain here | here := grown.lt_or_eq
    · exact .inl (ofNat_lt_ofNat second_lead (by omega))
    · exact .inr ⟨by rw [here], continuation_append_lt order here left right⟩

theorem flatMap_encodeChar_lt {first second : List Char} (order : first < second) :
    first.flatMap String.utf8EncodeChar < second.flatMap String.utf8EncodeChar := by
  induction first generalizing second with
  | nil =>
      cases second with
      | nil => exact absurd order (List.not_lt_nil [])
      | cons char second =>
          obtain ⟨count, -, -, -, encoded⟩ := exists_encodes char
          rw [List.flatMap_nil, List.flatMap_cons, encoded, List.cons_append]
          exact List.nil_lt_cons _ _
  | cons char first ih =>
      cases second with
      | nil => exact absurd order (List.not_lt_nil _)
      | cons other second =>
          rw [List.flatMap_cons, List.flatMap_cons]
          obtain here | ⟨rfl, later⟩ := List.cons_lt_cons_iff.mp order
          · obtain ⟨count, encodes⟩ := exists_encodes char
            obtain ⟨other_count, encodes_other⟩ := exists_encodes other
            exact encodes.append_lt encodes_other here _ _
          · exact List.append_left_lt (ih later)

/-- Texts are in the order of their bytes. -/
theorem bytes_lt_bytes_iff {first second : String} :
    bytes first < bytes second ↔ first < second := by
  have grows : ∀ {first second : String}, first < second → bytes first < bytes second := by
    intro first second order
    rw [bytes_eq_flatMap, bytes_eq_flatMap]
    exact flatMap_encodeChar_lt (String.lt_iff_toList_lt.mp order)
  refine ⟨fun order => ?_, grows⟩
  by_contra late
  obtain rfl | later := (not_lt.mp late).eq_or_lt
  · exact List.lt_irrefl _ order
  · exact List.lt_asymm order (grows later)

/-- A character of three bytes comes before one of four, which 16-bit units would put first. -/
example : bytes "\uffff" < bytes "😀" := by
  decide

end Text
end BucketCatalog
