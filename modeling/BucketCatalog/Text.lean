/-!
# Text

Cutting of texts at a mark, on character lists so that every operation is a structural recursion.
`splitFirst` and `beforeLast` say where the first and the last occurrence of a mark are, and
`withoutLead?` removes a leading text.  Their laws say that nothing is lost by a cut.
-/

namespace BucketCatalog
namespace Text

/-- What remains of the second list after the first, if the second starts with the first. -/
def dropLead? : List Char → List Char → Option (List Char)
  | [], text => some text
  | _ :: _, [] => none
  | mark :: lead, char :: text => if mark = char then dropLead? lead text else none

theorem dropLead?_eq_some_iff {lead text rest : List Char} :
    dropLead? lead text = some rest ↔ text = lead ++ rest := by
  induction lead generalizing text with
  | nil => simp [dropLead?, eq_comm]
  | cons mark lead induction =>
      cases text with
      | nil => simp [dropLead?]
      | cons char text =>
          by_cases same : mark = char
          · simp [dropLead?, same, induction]
          · simp [dropLead?, same, Ne.symm same]

/-- Cut a text before the first occurrence of a mark; the second part starts after the mark. -/
def splitFirst (mark : List Char) : List Char → Option (List Char × List Char)
  | [] => if mark = [] then some ([], []) else none
  | char :: text =>
      match dropLead? mark (char :: text) with
      | some rest => some ([], rest)
      | none => (splitFirst mark text).map fun parts => (char :: parts.1, parts.2)

/-- A cut loses nothing but the mark. -/
theorem eq_of_splitFirst {mark text before after : List Char}
    (cut : splitFirst mark text = some (before, after)) : text = before ++ mark ++ after := by
  induction text generalizing before with
  | nil =>
      by_cases empty : mark = []
      · simp [splitFirst, empty] at cut
        simp [cut, empty]
      · simp [splitFirst, empty] at cut
  | cons char text induction =>
      simp only [splitFirst] at cut
      split at cut
      · next rest lead =>
          simp only [Option.some.injEq, Prod.mk.injEq] at cut
          obtain ⟨rfl, rfl⟩ := cut
          simpa using dropLead?_eq_some_iff.mp lead
      · simp only [Option.map_eq_some_iff] at cut
        obtain ⟨⟨first, second⟩, found, parts⟩ := cut
        simp only [Prod.mk.injEq] at parts
        obtain ⟨rfl, rfl⟩ := parts
        simp [induction found]

/-- The part of a text before the last occurrence of a character. -/
def beforeLast? (mark : Char) : List Char → Option (List Char)
  | [] => none
  | char :: text =>
      match beforeLast? mark text with
      | some before => some (char :: before)
      | none => if char = mark then some [] else none

/-- The text after a leading text, if it starts with it. -/
def withoutLead? (lead text : String) : Option String :=
  (dropLead? lead.toList text.toList).map String.ofList

theorem withoutLead?_eq_some_iff {lead text rest : String} :
    withoutLead? lead text = some rest ↔ text = lead ++ rest := by
  simp only [withoutLead?, Option.map_eq_some_iff, dropLead?_eq_some_iff]
  constructor
  · rintro ⟨chars, split, rfl⟩
    rw [← String.toList_inj]
    simp [split]
  · rintro rfl
    exact ⟨rest.toList, by simp, by simp⟩

/-- Whether a text ends with another. -/
def endsWith (tail text : String) : Bool :=
  (dropLead? tail.toList.reverse text.toList.reverse).isSome

/-- The decimal digits of a number, padded on the left with zeros to at least `width` digits. -/
def padded (width number : Nat) : String :=
  let digits := Nat.toDigits 10 number
  String.ofList (List.replicate (width - digits.length) '0' ++ digits)

end Text
end BucketCatalog
