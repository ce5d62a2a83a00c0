import BucketCatalog.Listing.Entry
import BucketCatalog.Proofs.Text

/-!
# Rolling up keys

`Represents` says without any cutting what a key is listed as.  Rolling up keeps the byte order: a
key that comes later is never listed under an earlier name.  All keys that a common prefix leads are
listed as that prefix, so one name never stands for an object and a common prefix at once.
-/

namespace BucketCatalog
namespace Listing

/-- What an object under a prefix is listed as. -/
inductive Represents (keyPrefix delimiter : String) (object : Listed) : String × Entry → Prop where
  /-- An object without a delimiter after the prefix is listed as itself. -/
  | object (rest : String) (under : object.key = keyPrefix ++ rest)
      (flat : delimiter ≠ "" → ∀ before after, rest ≠ before ++ delimiter ++ after) :
      Represents keyPrefix delimiter object (object.key, .object object.size)
  /-- An object is listed as its key up to the first delimiter after the prefix. -/
  | folder (before after : String) (marked : delimiter ≠ "")
      (under : object.key = keyPrefix ++ (before ++ delimiter ++ after))
      (first : ∀ earlier later, before ++ delimiter ++ after = earlier ++ delimiter ++ later →
        before.length ≤ earlier.length) :
      Represents keyPrefix delimiter object (keyPrefix ++ before ++ delimiter, .folder)

variable {keyPrefix delimiter name : String} {object first second : Listed} {entry : Entry}

theorem dropLead?_eq_some_iff_key {rest : List Char} :
    Text.dropLead? keyPrefix.toList object.key.toList = some rest ↔
      object.key = keyPrefix ++ String.ofList rest := by
  rw [Text.dropLead?_eq_some_iff, ← String.toList_inj]
  simp

theorem represents_of_rollUp {listed : String × Entry}
    (rolled : rollUp keyPrefix delimiter object = some listed) :
    Represents keyPrefix delimiter object listed := by
  rw [rollUp] at rolled
  cases under : Text.dropLead? keyPrefix.toList object.key.toList with
  | none => simp [under] at rolled
  | some rest =>
      have key_eq := dropLead?_eq_some_iff_key.mp under
      simp only [under] at rolled
      split at rolled
      · next unmarked =>
          obtain rfl := Option.some.inj rolled
          exact .object (String.ofList rest) key_eq fun marked =>
            absurd (by simpa using unmarked) marked
      · next marked =>
          have marked : delimiter ≠ "" := by simpa using marked
          cases cut : Text.splitFirst delimiter.toList rest with
          | none =>
              simp only [cut] at rolled
              obtain rfl := Option.some.inj rolled
              refine .object (String.ofList rest) key_eq fun _ before after split => ?_
              apply Text.splitFirst_eq_none_iff.mp cut before.toList
              refine ⟨after.toList, ?_⟩
              simpa using (congrArg String.toList split).symm
          | some parts =>
              obtain ⟨before, after⟩ := parts
              simp only [cut] at rolled
              obtain rfl := Option.some.inj rolled
              obtain ⟨whole, earliest⟩ := Text.splitFirst_eq_some_iff.mp cut
              refine .folder (String.ofList before) (String.ofList after) marked ?_ ?_
              · rw [key_eq, whole]
                simp [← String.toList_inj]
              · intro earlier later split
                have stands : earlier.toList ++ delimiter.toList <+: rest := by
                  refine ⟨later.toList, ?_⟩
                  simpa [whole] using (congrArg String.toList split).symm
                simpa [String.length_toList] using earliest earlier.toList stands

theorem splitFirst_of_earliest {before after : String}
    (earliest : ∀ earlier later, before ++ delimiter ++ after = earlier ++ delimiter ++ later →
      before.length ≤ earlier.length) :
    Text.splitFirst delimiter.toList (before.toList ++ delimiter.toList ++ after.toList) =
      some (before.toList, after.toList) := by
  refine Text.splitFirst_eq_some_iff.mpr ⟨rfl, ?_⟩
  rintro earlier ⟨later, split⟩
  have bound := earliest (String.ofList earlier) (String.ofList later)
    (by simpa [← String.toList_inj] using split.symm)
  simpa [String.length_toList] using bound

theorem rollUp_of_represents {listed : String × Entry}
    (represents : Represents keyPrefix delimiter object listed) :
    rollUp keyPrefix delimiter object = some listed := by
  cases represents with
  | object rest under flat =>
      have lead : Text.dropLead? keyPrefix.toList object.key.toList = some rest.toList :=
        dropLead?_eq_some_iff_key.mpr (by simpa using under)
      simp only [rollUp, lead]
      split
      · rfl
      · next marked =>
          have uncut : Text.splitFirst delimiter.toList rest.toList = none := by
            rw [Text.splitFirst_eq_none_iff]
            rintro before ⟨after, split⟩
            refine flat (by simpa using marked) (String.ofList before) (String.ofList after) ?_
            simpa [← String.toList_inj] using split.symm
          simp [uncut]
  | folder before after marked under earliest =>
      have lead : Text.dropLead? keyPrefix.toList object.key.toList =
          some (before.toList ++ delimiter.toList ++ after.toList) :=
        dropLead?_eq_some_iff_key.mpr (by simp [under, ← String.toList_inj])
      have cut := splitFirst_of_earliest earliest
      simp only [rollUp, lead, cut]
      simp [marked]

/-- Rolling up gives what an object is listed as. -/
theorem rollUp_eq_some_iff {listed : String × Entry} :
    rollUp keyPrefix delimiter object = some listed ↔
      Represents keyPrefix delimiter object listed :=
  ⟨represents_of_rollUp, rollUp_of_represents⟩

/-- Every object under a prefix is listed. -/
theorem exists_represents (delimiter : String)
    (under : keyPrefix.toList <+: object.key.toList) :
    ∃ listed, Represents keyPrefix delimiter object listed := by
  obtain ⟨rest, whole⟩ := under
  have lead : Text.dropLead? keyPrefix.toList object.key.toList = some rest :=
    Text.dropLead?_eq_some_iff.mpr whole.symm
  simp only [← rollUp_eq_some_iff, rollUp, lead]
  split
  · exact ⟨_, rfl⟩
  · cases Text.splitFirst delimiter.toList rest with
    | none => exact ⟨_, rfl⟩
    | some parts => exact ⟨_, rfl⟩

/-- The name of an entry leads the key of every object that is listed under it. -/
theorem name_leads (rolled : rollUp keyPrefix delimiter object = some (name, entry)) :
    name.toList <+: object.key.toList := by
  cases represents_of_rollUp rolled with
  | object => exact List.prefix_rfl
  | folder before after marked under =>
      refine ⟨after.toList, ?_⟩
      rw [under]
      simp

/-- Names start with the prefix that is listed. -/
theorem prefix_leads (rolled : rollUp keyPrefix delimiter object = some (name, entry)) :
    keyPrefix.toList <+: name.toList := by
  cases represents_of_rollUp rolled with
  | object rest under => exact ⟨rest.toList, by rw [under, String.toList_append]⟩
  | folder before => exact ⟨before.toList ++ delimiter.toList, by simp⟩

theorem eq_of_rollUp_object {size : UInt64}
    (rolled : rollUp keyPrefix delimiter object = some (name, .object size)) :
    name = object.key ∧ size = object.size := by
  cases represents_of_rollUp rolled with
  | object => exact ⟨rfl, rfl⟩

/-- Every key that a common prefix leads is listed as that prefix. -/
theorem rollUp_of_folder_leads (rolled : rollUp keyPrefix delimiter first = some (name, .folder))
    (leads : name.toList <+: second.key.toList) :
    rollUp keyPrefix delimiter second = some (name, .folder) := by
  cases represents_of_rollUp rolled with
  | folder before after marked under earliest =>
      have cut := splitFirst_of_earliest earliest
      obtain ⟨rest, whole⟩ := leads
      have same_start : before.toList ++ delimiter.toList <+:
          before.toList ++ delimiter.toList ++ rest := ⟨rest, rfl⟩
      obtain ⟨left, cut⟩ := Text.splitFirst_of_leads cut same_start
      have lead : Text.dropLead? keyPrefix.toList second.key.toList =
          some (before.toList ++ delimiter.toList ++ rest) := by
        rw [Text.dropLead?_eq_some_iff, ← whole]
        simp
      simp only [rollUp, lead, cut]
      simp [marked]

/-- Objects that are listed under one name are listed as one entry. -/
theorem entry_eq_of_name_eq {other : Entry} (keyed : first.key = second.key → first = second)
    (rolled : rollUp keyPrefix delimiter first = some (name, entry))
    (rolled_other : rollUp keyPrefix delimiter second = some (name, other)) : entry = other := by
  cases entry with
  | folder =>
      have same := rollUp_of_folder_leads rolled (name_leads rolled_other)
      rw [rolled_other] at same
      simp_all
  | object size =>
      cases other with
      | folder =>
          have same := rollUp_of_folder_leads rolled_other (name_leads rolled)
          rw [rolled] at same
          simp_all
      | object other_size =>
          obtain ⟨name_eq, rfl⟩ := eq_of_rollUp_object rolled
          obtain ⟨other_name_eq, rfl⟩ := eq_of_rollUp_object rolled_other
          rw [keyed (name_eq.symm.trans other_name_eq)]

/-- A later key is never listed under an earlier name. -/
theorem name_le_name {other_name : String} {other : Entry} (order : first.key ≤ second.key)
    (rolled : rollUp keyPrefix delimiter first = some (name, entry))
    (rolled_other : rollUp keyPrefix delimiter second = some (other_name, other)) :
    name ≤ other_name := by
  by_contra earlier
  have earlier : other_name < name := not_le.mp earlier
  have upper : name ≤ second.key := (Text.le_of_leads (name_leads rolled)).trans order
  have inside : other_name.toList <+: name.toList :=
    Text.leads_of_between (name_leads rolled_other) earlier.le upper
  have leads : other_name.toList <+: first.key.toList := inside.trans (name_leads rolled)
  cases other with
  | folder =>
      have same := rollUp_of_folder_leads rolled_other leads
      rw [rolled] at same
      simp only [Option.some.injEq, Prod.mk.injEq] at same
      exact earlier.ne same.1.symm
  | object size =>
      obtain ⟨rfl, -⟩ := eq_of_rollUp_object rolled_other
      exact absurd upper (not_le_of_gt earlier)

/-- The size of an object does not change the name it is listed under. -/
theorem Represents.of_key_eq {object : Listed}
    (represents : Represents keyPrefix delimiter object (name, entry)) (other : Listed)
    (same : other.key = object.key) :
    ∃ entry, Represents keyPrefix delimiter other (name, entry) := by
  cases represents with
  | object rest under flat =>
      exact ⟨.object other.size, same ▸ .object rest (same.trans under) flat⟩
  | folder before after marked under earliest =>
      exact ⟨.folder, .folder before after marked (same.trans under) earliest⟩

/-- Whether an entry stands for a key, as its object or as a common prefix that leads it. -/
def standsFor (key : String) : String × Entry → Bool
  | (name, .object _) => name = key
  | (name, .folder) => (Text.withoutLead? name key).isSome

theorem standsFor_folder_iff {key : String} :
    standsFor key (name, .folder) ↔ name.toList <+: key.toList := by
  simp only [standsFor, Option.isSome_iff_exists, Text.withoutLead?_eq_some_iff]
  constructor
  · rintro ⟨rest, rfl⟩
    simp
  · rintro ⟨rest, whole⟩
    exact ⟨String.ofList rest, by simp [← String.toList_inj, whole]⟩

/-- Of all entries of a listing those of one name stand for an object. -/
theorem standsFor_iff {other_name : String} {other : Entry}
    (represents : Represents keyPrefix delimiter first (name, entry))
    (represents_other : Represents keyPrefix delimiter second (other_name, other)) :
    standsFor first.key (other_name, other) ↔ other_name = name := by
  have rolled := rollUp_of_represents represents
  have rolled_other := rollUp_of_represents represents_other
  cases other with
  | folder =>
      rw [standsFor_folder_iff]
      constructor
      · intro leads
        have same := rollUp_of_folder_leads rolled_other leads
        simp_all
      · rintro rfl
        exact name_leads rolled
  | object size =>
      obtain ⟨rfl, -⟩ := eq_of_rollUp_object rolled_other
      simp only [standsFor, decide_eq_true_eq]
      constructor
      · intro same
        exact le_antisymm (name_le_name same.le rolled_other rolled)
          (name_le_name same.ge rolled rolled_other)
      · rintro rfl
        cases entry with
        | folder =>
            have same := rollUp_of_folder_leads rolled List.prefix_rfl
            simp_all
        | object size => exact (eq_of_rollUp_object rolled).1

end Listing
end BucketCatalog
