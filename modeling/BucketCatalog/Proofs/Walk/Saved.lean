import BucketCatalog.Proofs.Chain.Blocks
import BucketCatalog.Proofs.Chain.Edited
import BucketCatalog.Proofs.Walk.Draining
import BucketCatalog.Proofs.Walk.Page
import Mathlib.Data.List.Infix

/-!
# Saved cursors

A cursor outlives the page that it was taken from.  Before the next pass goes on from it, others may
have deleted everything past it, while the asset still has objects before it.  A pass fails exactly
if a call finds nothing past its token, and its cursor stays there, so that the next pass fails as
well unless something was put past it.
-/

namespace BucketCatalog

open Listing

namespace Bucket

/-- Whether an object is stored under a prefix past a token.  One at the empty path does not count:
it is never listed. -/
def HoldsPast (bucket : Bucket) (keyPrefix : String) (token : Option String) : Prop :=
  ∃ object ∈ bucket.listed, object.key ≠ "" ∧ keyPrefix.toList <+: object.key.toList ∧
    isLeft token object.key

instance (bucket : Bucket) (keyPrefix : String) (token : Option String) :
    Decidable (bucket.HoldsPast keyPrefix token) :=
  inferInstanceAs (Decidable (∃ object ∈ bucket.listed, object.key ≠ "" ∧
    keyPrefix.toList <+: object.key.toList ∧ isLeft token object.key))

theorem HoldsPast.at_start {bucket : Bucket} {keyPrefix : String} {token : Option String}
    (holds : bucket.HoldsPast keyPrefix token) : bucket.HoldsPast keyPrefix none := by
  obtain ⟨object, member, nonempty, leads, -⟩ := holds
  exact ⟨object, member, nonempty, leads, rfl⟩

end Bucket

/-- Whether a key has no delimiter after the prefix of an asset. -/
def Asset.IsFlat (asset : Asset) (key : String) : Prop :=
  ∀ before after, key ≠ asset.keyPrefix ++ before ++ asset.delimiter ++ after

namespace Contested

variable {contested : Contested} {asset : Asset} {token : Option String} {name : String}

/-- What holds of all paths in a bucket and of all paths that are written to. -/
structure KeepsTo (contested : Contested) (holds : String → Prop) : Prop where
  bucket : ∀ path ∈ contested.bucket.objects.keys, holds path
  pending : ∀ edits ∈ contested.pending, ∀ write ∈ edits, holds (StoredPath.ofKey write.key)

theorem KeepsTo.met {holds : String → Prop} (keeps : contested.KeepsTo holds) :
    ∀ path ∈ contested.met.objects.keys, holds path := by
  apply Bucket.forall_keys_edited keeps.bucket
  cases pending_eq : contested.pending with
  | nil => simp
  | cons edits pending => exact keeps.pending edits (by simp [pending_eq])

theorem KeepsTo.after {holds : String → Prop} (keeps : contested.KeepsTo holds) :
    contested.after.KeepsTo holds :=
  ⟨keeps.met, fun edits member => keeps.pending edits (List.mem_of_mem_tail member)⟩

/-- Flat keys are listed as themselves: what is left after a token are the objects past it. -/
theorem Serves.mem_remaining_of_flat (serves : contested.Serves (asset.request name token))
    (flat : contested.KeepsTo asset.IsFlat) {listed : String × Entry} :
    listed ∈ contested.met.remaining (asset.request name token) ↔
      ∃ object ∈ contested.met.listed, object.key ≠ "" ∧
        asset.keyPrefix.toList <+: object.key.toList ∧ isLeft token object.key ∧
          listed = (object.key, .object object.size) := by
  have listed_as : ∀ object ∈ contested.met.listed, ∀ listed,
      Represents asset.keyPrefix asset.delimiter object listed →
        listed = (object.key, .object object.size) := by
    intro object member listed represents
    cases represents with
    | object => rfl
    | folder before after marked under =>
        have key_flat := flat.met object.key (Bucket.key_mem_keys member)
        exact absurd (by simpa [String.append_assoc] using under) (key_flat before after)
  rw [serves.mem_remaining]
  constructor
  · rintro ⟨⟨object, member, nonempty, represents⟩, left⟩
    obtain rfl := listed_as object member listed represents
    exact ⟨object, member, nonempty, prefix_leads (rollUp_of_represents represents), left, rfl⟩
  · rintro ⟨object, member, nonempty, leads, left, rfl⟩
    obtain ⟨listed, represents⟩ := exists_represents asset.delimiter leads
    obtain rfl := listed_as object member listed represents
    exact ⟨⟨object, member, nonempty, represents⟩, left⟩

theorem Serves.remaining_eq_nil_iff (serves : contested.Serves (asset.request name token))
    (flat : contested.KeepsTo asset.IsFlat) :
    contested.met.remaining (asset.request name token) = [] ↔
      ¬contested.met.HoldsPast asset.keyPrefix token := by
  rw [List.eq_nil_iff_forall_not_mem]
  simp only [serves.mem_remaining_of_flat flat]
  constructor
  · rintro nothing ⟨object, member, nonempty, leads, left⟩
    exact nothing _ ⟨object, member, nonempty, leads, left, rfl⟩
  · rintro nothing listed ⟨object, member, nonempty, leads, left, -⟩
    exact nothing ⟨object, member, nonempty, leads, left⟩

/-- A page has objects exactly if the bucket has some past the token. -/
theorem Serves.isGood_iff (serves : contested.Serves (asset.request name token))
    (flat : contested.KeepsTo asset.IsFlat) (kind : asset.kind = .file) :
    asset.isGood ((contested.met.remaining (asset.request name token)).take asset.pageSize) ↔
      contested.met.HoldsPast asset.keyPrefix token := by
  have empty_iff := serves.remaining_eq_nil_iff flat
  cases cut : contested.met.remaining (asset.request name token) with
  | nil => simpa [Asset.isGood] using empty_iff.mp cut
  | cons first rest =>
      have holds : contested.met.HoldsPast asset.keyPrefix token := by
        by_contra nothing
        simp [empty_iff.mpr nothing] at cut
      have first_member : first ∈ contested.met.remaining (asset.request name token) := by
        simp [cut]
      obtain ⟨object, -, -, -, -, rfl⟩ := (serves.mem_remaining_of_flat flat).mp first_member
      obtain ⟨size, size_eq⟩ := Nat.exists_eq_add_one_of_ne_zero (Nat.ne_of_gt asset.pageSize_pos)
      simp [Asset.isGood, size_eq, Asset.isOfKind, kind, holds]

variable {wanted : Option Nat} {calls : Nat}

/-- A call of a pass fails exactly if nothing is left past its token; otherwise the pass stops on
the page, ends with it, or goes on after its last object. -/
theorem Serves.run_call (serves : contested.Serves (asset.request name token))
    (flat : contested.KeepsTo asset.IsFlat) (kind : asset.kind = .file)
    (some_wanted : wanted ≠ some 0) (calls : Nat) :
    (¬contested.met.HoldsPast asset.keyPrefix token ∧
        Walk.run Contested.remote name asset Walk.key (calls + 1) wanted token contested =
          (⟨[], .failed (.page asset.name .file .noContents none), ⟨token⟩⟩, contested.after)) ∨
      contested.met.HoldsPast asset.keyPrefix token ∧
        ((wanted ≠ none ∧ ∃ items,
            Walk.run Contested.remote name asset Walk.key (calls + 1) wanted token contested =
              (⟨items, .stopped, ⟨token⟩⟩, contested.after)) ∨
          (∃ items,
            Walk.run Contested.remote name asset Walk.key (calls + 1) wanted token contested =
              (⟨items, .done, .start⟩, contested.after)) ∨
          ∃ front last items left,
            asset.pageSize < (contested.met.remaining (asset.request name token)).length ∧
            (contested.met.remaining (asset.request name token)).take asset.pageSize =
              front ++ [last] ∧
            left ≠ some 0 ∧ (wanted = none → left = none) ∧
            Walk.run Contested.remote name asset Walk.key (calls + 1) wanted token contested =
              ((Walk.run Contested.remote name asset Walk.key calls left (some last.1)
                  contested.after).1.prepend items,
                (Walk.run Contested.remote name asset Walk.key calls left (some last.1)
                  contested.after).2)) := by
  have good_iff := serves.isGood_iff flat kind
  obtain ⟨fault, refused, ended⟩ | ⟨page, count, page_eq, found, rfl, ended⟩ |
    ⟨page, page_eq, last, ended⟩ | ⟨page, later, page_eq, turns, more, went_on⟩ :=
    Walk.run_making_cases id serves.answer some_wanted calls
  · obtain ⟨bad, rfl⟩ := Asset.refuses_ofEntries asset.pageSize_pos refused
    have nothing : ¬contested.met.HoldsPast asset.keyPrefix token := by
      rw [← good_iff]
      simpa using bad
    have empty := (serves.remaining_eq_nil_iff flat).mpr nothing
    refine .inl ⟨nothing, ?_⟩
    rw [Walk.key_eq_making, ended]
    simp [empty, Asset.faultOf, Asset.othersOf, Asset.missing, kind, collectionOf]
  · obtain rfl := Except.ok.inj page_eq
    rw [Asset.pageSize_request, Asset.isSome_collection?_ofEntries, good_iff] at found
    exact .inr ⟨found, .inl ⟨by simp, _, ended⟩⟩
  · obtain rfl := Except.ok.inj page_eq
    have good := (Asset.isLast_ofEntries last).1
    rw [Asset.pageSize_request, good_iff] at good
    exact .inr ⟨good, .inr (.inl ⟨_, ended⟩)⟩
  · obtain rfl := Except.ok.inj page_eq
    obtain ⟨good, longer, front, last, block, rfl⟩ := Asset.turns_ofEntries turns
    rw [Asset.pageSize_request, good_iff] at good
    refine .inr ⟨good, .inr (.inr ⟨front, last, _, _, longer, block, more.rest_ne_zero, ?_,
      went_on⟩)⟩
    rintro rfl
    rfl

/-- A pass that comes to rest fails exactly if its last call met nothing past its token. -/
theorem Serves.rests_cases (serves : contested.Serves (asset.request name token))
    (flat : contested.KeepsTo asset.IsFlat) (kind : asset.kind = .file)
    (some_wanted : wanted ≠ some 0)
    (rests : (Walk.run Contested.remote name asset Walk.key calls wanted token
      contested).1.ending ≠ .unfinished) :
    ∃ index walked left,
      Walk.run Contested.remote name asset Walk.key calls wanted token contested =
          (walked, left) ∧
        left.bucket = contested.metAfter index ∧ Bucket.IsStart walked.cursor.token ∧
        (walked.ending = .failed (.page asset.name .file .noContents none) ∧
            ¬left.bucket.HoldsPast asset.keyPrefix walked.cursor.token ∨
          left.bucket.HoldsPast asset.keyPrefix walked.cursor.token ∧
            (walked.ending = .stopped ∧ wanted ≠ none ∨
              walked.ending = .done ∧ walked.cursor = .start)) := by
  induction calls generalizing contested token wanted with
  | zero =>
      rw [Walk.run] at rests
      · simp at rests
      · exact some_wanted
  | succ calls ih =>
      have met : contested.after.bucket = contested.metAfter 0 := metAfter_zero.symm
      obtain ⟨nothing, ended⟩ | ⟨holds, ⟨some_number, items, ended⟩ | ⟨items, ended⟩ |
        ⟨front, last, items, left, -, block, left_wanted, all_wanted, went_on⟩⟩ :=
        serves.run_call flat kind some_wanted calls
      · exact ⟨0, _, _, ended, met, serves.start, .inl ⟨rfl, nothing⟩⟩
      · exact ⟨0, _, _, ended, met, serves.start, .inr ⟨holds, .inl ⟨rfl, some_number⟩⟩⟩
      · refine ⟨0, _, _, ended, met, ?_, .inr ⟨holds.at_start, .inr ⟨rfl, rfl⟩⟩⟩
        simp [Cursor.start, Bucket.IsStart]
      · rw [went_on] at rests ⊢
        have next := serves.after (last_mem block)
        obtain ⟨index, walked, final, later, met_later, start, outcome⟩ :=
          ih next flat.after left_wanted rests
        refine ⟨index + 1, _, _, rfl, ?_⟩
        rw [later]
        refine ⟨by rw [met_later, metAfter_after], start, ?_⟩
        obtain failed | ⟨holds, ⟨stopped, some_number⟩ | done⟩ := outcome
        · exact .inl failed
        · exact .inr ⟨holds, .inl ⟨stopped, fun none_given => some_number (all_wanted none_given)⟩⟩
        · exact .inr ⟨holds, .inr done⟩

/-- A pass comes to rest if it does after the page of its first call, should it go on there. -/
theorem Serves.exists_rests_of_after (serves : contested.Serves (asset.request name token))
    (flat : contested.KeepsTo asset.IsFlat) (kind : asset.kind = .file)
    (later : ∀ front last,
      (contested.met.remaining (asset.request name token)).take asset.pageSize = front ++ [last] →
      ∃ calls, ∀ wanted, (Walk.run Contested.remote name asset Walk.key calls wanted (some last.1)
        contested.after).1.ending ≠ .unfinished) :
    ∃ calls, ∀ wanted, (Walk.run Contested.remote name asset Walk.key calls wanted token
      contested).1.ending ≠ .unfinished := by
  -- The calls that are enough after the page, if there is one to go on after.
  obtain ⟨calls, enough⟩ : ∃ calls, ∀ front last,
      (contested.met.remaining (asset.request name token)).take asset.pageSize = front ++ [last] →
      ∀ wanted, (Walk.run Contested.remote name asset Walk.key calls wanted (some last.1)
        contested.after).1.ending ≠ .unfinished := by
    rcases List.eq_nil_or_concat'
      ((contested.met.remaining (asset.request name token)).take asset.pageSize) with
      empty | ⟨front, last, block⟩
    · exact ⟨0, fun front last block => by simp [empty] at block⟩
    · obtain ⟨calls, enough⟩ := later front last block
      refine ⟨calls, fun other_front other_last other_block => ?_⟩
      obtain ⟨-, ⟨⟩⟩ := List.append_inj' (block.symm.trans other_block) rfl
      exact enough
  refine ⟨calls + 1, fun wanted => ?_⟩
  by_cases none_wanted : wanted = some 0
  · simp [none_wanted, Walk.run]
  · obtain ⟨-, ended⟩ | ⟨-, ⟨-, items, ended⟩ | ⟨items, ended⟩ |
      ⟨front, last, items, left, -, block, -, -, went_on⟩⟩ :=
      serves.run_call flat kind none_wanted calls
    · simp [ended]
    · simp [ended]
    · simp [ended]
    · rw [went_on]
      exact enough front last block left

/-- A pass over a bucket that is not written to comes to rest. -/
theorem Serves.exists_rests_unwritten (serves : contested.Serves (asset.request name token))
    (flat : contested.KeepsTo asset.IsFlat) (kind : asset.kind = .file)
    (unwritten : contested.pending = []) :
    ∃ calls, ∀ wanted, (Walk.run Contested.remote name asset Walk.key calls wanted token
      contested).1.ending ≠ .unfinished := by
  have same : contested.after = contested := by
    cases contested
    simp_all [Contested.after, Contested.met, Bucket.edited]
  induction size : (contested.met.remaining (asset.request name token)).length
    using Nat.strong_induction_on generalizing token with
  | _ size ih =>
      refine serves.exists_rests_of_after flat kind fun front last block => ?_
      rw [same]
      have next := serves.after (last_mem block)
      rw [same] at next
      refine ih _ ?_ next rfl
      have undisturbed : contested.met.disturbance.listing = none := by
        simp [met, serves.undisturbed]
      have rest : contested.met.remaining (asset.request name (some last.1)) =
          (contested.met.remaining (asset.request name token)).drop asset.pageSize :=
        Bucket.remaining_after_block serves.stable.met undisturbed serves.start block
      have some_left : 0 < (contested.met.remaining (asset.request name token)).length :=
        List.length_pos_of_mem (last_mem block)
      have positive := asset.pageSize_pos
      rw [rest, List.length_drop]
      omega

/-- A pass makes only so many calls, whatever it is to hand out. -/
theorem Serves.exists_rests (serves : contested.Serves (asset.request name token))
    (flat : contested.KeepsTo asset.IsFlat) (kind : asset.kind = .file) :
    ∃ calls, ∀ wanted, (Walk.run Contested.remote name asset Walk.key calls wanted token
      contested).1.ending ≠ .unfinished := by
  induction written : contested.pending generalizing contested token with
  | nil => exact serves.exists_rests_unwritten flat kind written
  | cons edits pending ih =>
      refine serves.exists_rests_of_after flat kind fun front last block => ?_
      exact ih (serves.after (last_mem block)) flat.after (by simp [Contested.after, written])

end Contested

/-- What happens to a bucket that is read through one saved cursor. -/
inductive Event where
  /-- A write between two passes. -/
  | write (edit : Edit)
  /-- A pass, with the writes before each of its calls. -/
  | pass (wanted : Option Nat) (pending : List (List Edit))

/-- The writes of an event. -/
def Event.writes : Event → List Edit
  | .write edit => [edit]
  | .pass _ pending => pending.flatten

/-- A pass that was made. -/
structure Made where
  /-- The cursor that it went on from. -/
  cursor : Cursor
  /-- The number of keys that it was to hand out, if it was not to hand out all. -/
  wanted : Option Nat
  /-- The bucket that its first call met. -/
  first : Bucket
  /-- The bucket that its last call met. -/
  last : Bucket
  /-- What it handed out and where it came to rest. -/
  walked : Walked String

/-- The passes of events, each from the cursor that the one before it left. -/
def passes (asset : Asset) (calls : Nat) : List Event → Bucket → Cursor → List Made
  | [], _, _ => []
  | .write edit :: events, bucket, cursor => passes asset calls events (bucket.edit edit) cursor
  | .pass wanted pending :: events, bucket, cursor =>
      let contested : Contested := ⟨bucket, pending⟩
      let (walked, left) :=
        Walk.run Contested.remote bucket.name asset Walk.key calls wanted cursor.token contested
      ⟨cursor, wanted, contested.met, left.bucket, walked⟩ ::
        passes asset calls events (bucket.edited pending.flatten) walked.cursor

/-- What passes through a saved cursor come to. -/
structure Made.Settles (made : Made) (asset : Asset) : Prop where
  /-- A pass comes to rest. -/
  rests : made.walked.ending ≠ .unfinished
  /-- A pass of which a key is wanted fails exactly if its last call met nothing past its token. -/
  fails_iff : (∃ fault, made.walked.ending = .failed fault) ↔
    made.wanted ≠ some 0 ∧ ¬made.last.HoldsPast asset.keyPrefix made.walked.cursor.token
  /-- It fails for want of objects, and not at the beginning of the listing. -/
  fault : ∀ fault, made.walked.ending = .failed fault →
    fault = .page asset.name .file .noContents none ∧ made.walked.cursor.isResuming
  /-- If the first call finds nothing past its token, the cursor stays where it is. -/
  stuck : made.wanted ≠ some 0 → ¬made.first.HoldsPast asset.keyPrefix made.cursor.token →
    made.walked = ⟨[], .failed (.page asset.name .file .noContents none), made.cursor⟩
  /-- Any other pass that hands out all keys ends normally, and leaves the cursor empty. -/
  drained : made.wanted = none → (¬∃ fault, made.walked.ending = .failed fault) →
    made.walked.ending = .done ∧ made.walked.cursor = .start

/-- What the passes of events rely on. -/
structure Admits (asset : Asset) (bucket : Bucket) (events : List Event) : Prop where
  /-- Listings do not fail. -/
  undisturbed : bucket.disturbance.listing = none
  /-- The paths in the bucket are paths of themselves and flat. -/
  stored : ∀ path ∈ bucket.objects.keys, StoredPath.IsStable path ∧ asset.IsFlat path
  /-- So are the paths written to. -/
  written : ∀ write ∈ events.flatMap Event.writes,
    StoredPath.IsStable write.key ∧ asset.IsFlat write.key
  /-- At every moment an object is stored under the prefix. -/
  nonempty : ∀ writes, writes <+: events.flatMap Event.writes →
    (bucket.edited writes).HoldsPast asset.keyPrefix none

section Passes

variable {asset : Asset} {bucket : Bucket} {events : List Event} {event : Event}

theorem Admits.after (admits : Admits asset bucket (event :: events)) :
    Admits asset (bucket.edited event.writes) events where
  undisturbed := by simp [admits.undisturbed]
  stored := by
    apply Bucket.forall_keys_edited admits.stored
    intro write member
    have path := admits.written write (by simp [member])
    have same : StoredPath.ofKey write.key = write.key := path.1
    rwa [same]
  written := fun write member => admits.written write (by
    rw [List.flatMap_cons]
    exact List.mem_append_right _ member)
  nonempty := by
    rintro writes ⟨rest, split⟩
    rw [← Bucket.edited_append]
    exact admits.nonempty _ ⟨rest, by rw [List.append_assoc, split, List.flatMap_cons]⟩

variable {wanted : Option Nat} {pending : List (List Edit)} {cursor : Cursor}

theorem Admits.of_pending (admits : Admits asset bucket (.pass wanted pending :: events))
    {edits : List Edit} (edits_member : edits ∈ pending) {write : Edit} (member : write ∈ edits) :
    StoredPath.IsStable write.key ∧ asset.IsFlat write.key := by
  apply admits.written
  rw [List.flatMap_cons]
  exact List.mem_append_left _ (List.mem_flatten_of_mem edits_member member)

theorem Admits.serves (admits : Admits asset bucket (.pass wanted pending :: events))
    (start : Bucket.IsStart cursor.token) :
    (⟨bucket, pending⟩ : Contested).Serves (asset.request bucket.name cursor.token) where
  stable :=
    { bucket := fun path member => (admits.stored path member).1
      pending := fun _ edits_member _ member => (admits.of_pending edits_member member).1 }
  undisturbed := admits.undisturbed
  own := rfl
  start := start

theorem Admits.flat (admits : Admits asset bucket (.pass wanted pending :: events)) :
    (⟨bucket, pending⟩ : Contested).KeepsTo asset.IsFlat where
  bucket := fun path member => (admits.stored path member).2
  pending := by
    intro edits edits_member write member
    obtain ⟨stable, flat⟩ := admits.of_pending edits_member member
    have same : StoredPath.ofKey write.key = write.key := stable
    rwa [same]

theorem Admits.holdsPast_metAfter (admits : Admits asset bucket (.pass wanted pending :: events))
    (index : Nat) :
    ((⟨bucket, pending⟩ : Contested).metAfter index).HoldsPast asset.keyPrefix none := by
  apply admits.nonempty
  obtain ⟨rest, split⟩ := List.take_prefix (index + 1) pending
  refine ⟨rest.flatten ++ events.flatMap Event.writes, ?_⟩
  rw [← List.append_assoc, ← List.flatten_append, split, List.flatMap_cons, Event.writes]

/-- A pass that comes to rest settles, and leaves a cursor from which the next pass can go on. -/
theorem Admits.settles (admits : Admits asset bucket (.pass wanted pending :: events))
    (kind : asset.kind = .file) (start : Bucket.IsStart cursor.token) {calls : Nat}
    (rests : (Walk.run Contested.remote bucket.name asset Walk.key calls wanted cursor.token
      ⟨bucket, pending⟩).1.ending ≠ .unfinished) :
    ∃ walked left,
      Walk.run Contested.remote bucket.name asset Walk.key calls wanted cursor.token
          ⟨bucket, pending⟩ = (walked, left) ∧
        Bucket.IsStart walked.cursor.token ∧
        Made.Settles ⟨cursor, wanted, (⟨bucket, pending⟩ : Contested).met, left.bucket, walked⟩
          asset := by
  by_cases none_wanted : wanted = some 0
  · refine ⟨⟨[], .stopped, cursor⟩, ⟨bucket, pending⟩, ?_, start, ?_⟩
    · rw [none_wanted, Walk.run_zero]
    · exact ⟨by simp, by simp [none_wanted], by simp, by simp [none_wanted], by simp [none_wanted]⟩
  · have serves := admits.serves start
    obtain ⟨index, walked, left, ended, met, next, outcome⟩ :=
      serves.rests_cases admits.flat kind none_wanted rests
    refine ⟨walked, left, ended, next, ?_, ?_, ?_, ?_, ?_⟩
    · rwa [ended] at rests
    · obtain ⟨failed, nothing⟩ | ⟨holds, ⟨stopped, -⟩ | ⟨done, -⟩⟩ := outcome
      · exact iff_of_true ⟨_, failed⟩ ⟨none_wanted, nothing⟩
      · simp [stopped, holds]
      · simp [done, holds]
    · intro fault failed
      obtain ⟨other, nothing⟩ | ⟨-, ⟨stopped, -⟩ | ⟨done, -⟩⟩ := outcome
      · refine ⟨Ending.failed.inj (failed.symm.trans other), ?_⟩
        -- At the beginning of the listing the call would have met an object.
        by_contra beginning
        have token_eq : walked.cursor.token = none := by
          simpa [Cursor.isResuming] using beginning
        rw [token_eq, met] at nothing
        exact nothing (admits.holdsPast_metAfter index)
      · simp [stopped] at failed
      · simp [done] at failed
    · intro _ nothing
      cases calls with
      | zero =>
          rw [Walk.run] at rests
          · simp at rests
          · exact none_wanted
      | succ calls =>
          obtain ⟨-, failed⟩ | ⟨holds, -⟩ := serves.run_call admits.flat kind none_wanted calls
          · rw [ended] at failed
            exact congrArg Prod.fst failed
          · exact absurd holds nothing
    · rintro rfl succeeded
      obtain ⟨failed, -⟩ | ⟨-, ⟨-, some_number⟩ | done⟩ := outcome
      · exact absurd ⟨_, failed⟩ succeeded
      · exact absurd rfl some_number
      · exact done

theorem Admits.passes_settle (admits : Admits asset bucket events) (kind : asset.kind = .file)
    (start : Bucket.IsStart cursor.token) :
    ∃ enough, ∀ calls, enough ≤ calls → ∀ made ∈ passes asset calls events bucket cursor,
      made.Settles asset := by
  induction events generalizing bucket cursor with
  | nil => exact ⟨0, by simp [passes]⟩
  | cons event events ih =>
      cases event with
      | write edit => exact ih admits.after start
      | pass wanted pending =>
          obtain ⟨first, rests⟩ := (admits.serves start).exists_rests admits.flat kind
          obtain ⟨walked, left, ended, next, settles⟩ := admits.settles kind start (rests wanted)
          obtain ⟨enough, later⟩ := ih admits.after next
          refine ⟨max first enough, fun calls bound => ?_⟩
          obtain ⟨more, rfl⟩ := Nat.exists_eq_add_of_le (le_of_max_le_left bound)
          rw [passes, Walk.run_add (rests wanted), ended]
          exact List.forall_mem_cons.mpr ⟨settles, later _ (le_of_max_le_right bound)⟩

/--
Passes of a file asset through one cursor, while the bucket is written to between their calls and
between the passes, and never without an object under the prefix.  If enough calls are allowed, each
pass settles: it fails exactly if its last call asks for what is past a token when nothing is, and
such a cursor is kept, so that later passes fail as well until something is put past it.
-/
theorem saved_cursor_fails_iff_nothing_past (kind : asset.kind = .file)
    (admits : Admits asset bucket events) :
    ∃ enough, ∀ calls, enough ≤ calls → ∀ made ∈ passes asset calls events bucket .start,
      made.Settles asset :=
  admits.passes_settle kind (by simp [Cursor.start, Bucket.IsStart])

end Passes

/-- A bucket of three objects. -/
def lettered : Bucket :=
  ["a1", "a2", "a3"].foldl (fun bucket key => bucket.put key ⟨none, none, [120]⟩) (.empty "b")

/-- A pass is given up on its second page, the last object is deleted, and two passes go on from the
cursor, with another object put past it between them. -/
def deletedPast : List Event :=
  [.pass (some 3) [], .write (.delete "a3"), .pass none [], .write (.put "a4" ⟨none, none, [120]⟩),
    .pass none []]

theorem isFlat_letters {key : String} (single : '/' ∉ key.toList) : Walk.letters.IsFlat key := by
  rintro before after rfl
  simp [Walk.letters] at single

theorem admits_deletedPast : Admits Walk.letters lettered deletedPast where
  undisturbed := rfl
  stored := by
    have stable : lettered.IsStable := by decide +kernel
    have single : ∀ path ∈ lettered.objects.keys, '/' ∉ path.toList := by decide +kernel
    exact fun path member => ⟨stable path member, isFlat_letters (single path member)⟩
  written := by
    have plain : ∀ write ∈ deletedPast.flatMap Event.writes,
        StoredPath.IsStable write.key ∧ '/' ∉ write.key.toList := by
      decide +kernel
    exact fun write member => (plain write member).imp_right isFlat_letters
  nonempty := by
    have moments : ∀ writes ∈ (deletedPast.flatMap Event.writes).inits,
        (lettered.edited writes).HoldsPast Walk.letters.keyPrefix none := by
      decide +kernel
    exact fun writes leads => moments writes ((List.mem_inits _ _).mpr leads)

theorem saved_cursor_fails_iff_nothing_past_lettered :
    Walk.letters.kind = .file ∧ Admits Walk.letters lettered deletedPast ∧
      ∃ enough, ∀ calls, enough ≤ calls →
        ∀ made ∈ passes Walk.letters calls deletedPast lettered .start,
          made.Settles Walk.letters :=
  ⟨rfl, admits_deletedPast, saved_cursor_fails_iff_nothing_past rfl admits_deletedPast⟩

/-- The second pass fails, although two objects are stored under the prefix; the third ends. -/
theorem saved_cursor_stuck :
    Admits Walk.letters lettered deletedPast ∧
      (passes Walk.letters 3 deletedPast lettered .start).map Made.walked =
        [⟨["a1", "a2", "a3"], .stopped, .ofToken "a2"⟩,
          ⟨[], .failed (.page "letters" .file .noContents none), .ofToken "a2"⟩,
          ⟨["a4"], .done, .start⟩] :=
  ⟨admits_deletedPast, rfl⟩

end BucketCatalog
