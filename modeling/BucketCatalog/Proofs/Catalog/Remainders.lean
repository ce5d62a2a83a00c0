import BucketCatalog.Proofs.Catalog.Partitions
import BucketCatalog.Proofs.Session
import BucketCatalog.Proofs.Walk.Ascending

/-!
# Ids without a pattern

Without a partition pattern the id of a key is what the key has after the prefix.  A key that does
not start with the prefix is its own id, so that two keys can have one id; but a pass over a bucket
has no such key and has none twice.  There an id and the prefix give the key back, and a partition
has at most the one key that they make.
-/

namespace BucketCatalog

/-- The id of a key by what it has after the prefix. -/
def Asset.remainder (asset : Asset) (key : String) : PartitionId where
  text := (Text.withoutLead? asset.keyPrefix key).getD key

/-- The keys of a pass over an unchanged bucket from the beginning. -/
def Catalog.pass (catalog : Catalog) (calls : Nat) (asset : Asset) (bucket : Bucket) :
    Walked String :=
  (Walk.run Bucket.remote catalog.bucket asset Walk.key calls none Cursor.start.token bucket).1

namespace Asset

variable {asset : Asset} {key : String}

theorem keyPrefix_append_remainder (leads : asset.keyPrefix.toList <+: key.toList) :
    asset.keyPrefix ++ (asset.remainder key).text = key := by
  obtain ⟨rest, whole⟩ := leads
  have split : key = asset.keyPrefix ++ String.ofList rest := by
    rw [← String.toList_inj]
    simp [whole]
  rw [remainder, Text.withoutLead?_eq_some_iff.mpr split, Option.getD_some, ← split]

theorem map_keyPrefix_append_remainder {keys : List String}
    (lead : ∀ key ∈ keys, asset.keyPrefix.toList <+: key.toList) :
    (keys.map asset.remainder).map (fun id => asset.keyPrefix ++ id.text) = keys := by
  rw [List.map_map]
  calc
    _ = keys.map id :=
      List.map_congr_left fun key member => keyPrefix_append_remainder (lead key member)
    _ = keys := List.map_id keys

theorem remainder_text_eq_iff (leads : asset.keyPrefix.toList <+: key.toList) {partition : String} :
    (asset.remainder key).text = partition ↔ key = asset.keyPrefix ++ partition := by
  have whole := keyPrefix_append_remainder leads
  constructor
  · rintro rfl
    exact whole.symm
  · rintro rfl
    exact (String.append_right_inj _).mp whole

end Asset

/-- A key without the prefix can have the id of one with it. -/
example :
    (everything "days" "d" 2).remainder "1" = (everything "days" "d" 2).remainder "d1" := by
  decide

namespace Catalog

variable {State : Type} {catalog : Catalog} {asset : Asset} {name : String}

theorem identified_of_unpatterned (unpatterned : asset.partitionPattern = none) (key : String)
    (session : Session State) :
    identified asset key session = ((key, asset.remainder key), session) := by
  have read : asset.readId key = .ok (asset.remainder key) := by
    simp [Asset.readId, unpatterned, Asset.remainder]
  simp only [identified, Session.identify, Asset.identify, read]
  simp [Session.warn]

theorem makeAll_identified_of_unpatterned (unpatterned : asset.partitionPattern = none)
    (keys : List String) (session : Session State) :
    Walk.makeAll (identified asset) keys session =
      (keys.map fun key => (key, asset.remainder key), session) := by
  induction keys with
  | nil => rfl
  | cons key keys ih => simp [Walk.makeAll, identified_of_unpatterned unpatterned, ih]

theorem scan_of_unpatterned (unpatterned : asset.partitionPattern = none) (catalog : Catalog)
    (calls : Nat) (session : Session Bucket) :
    (catalog.scan Bucket.remote calls asset session).1 =
      ((catalog.pass calls asset session.store).map
        fun key => (key, asset.remainder key)).result := by
  rw [scan_eq, Walk.run_of_aside (identified_isAside asset),
    makeAll_identified_of_unpatterned unpatterned]
  rfl

theorem partitionIds_of_unpatterned (found : catalog.assets.get? name = some asset)
    (unpatterned : asset.partitionPattern = none) (calls : Nat) (session : Session Bucket) :
    (catalog.partitionIds Bucket.remote calls name session).1 =
      (catalog.pass calls asset session.store).result.map (List.map asset.remainder) := by
  simp only [partitionIds, found]
  rw [scan_of_unpatterned unpatterned, Walked.result_map]
  cases (catalog.pass calls asset session.store).result with
  | error fault => rfl
  | ok keys => simp [Except.map, Function.comp_def]

theorem pass_ascends (catalog : Catalog) (calls : Nat) (asset : Asset) (bucket : Bucket) :
    (catalog.pass calls asset bucket).items.Nodup ∧
      ∀ key ∈ (catalog.pass calls asset bucket).items,
        asset.keyPrefix.toList <+: key.toList := by
  obtain ⟨ascend, past⟩ :=
    Walk.run_ascends bucket catalog.bucket asset calls Cursor.start.token
  exact ⟨ascend.imp fun order => order.ne, fun key member => (past key member).2⟩

/-- A pass that is needed whole either is whole or is refused, though never for its ids. -/
theorem pass_result_cases (catalog : Catalog) (calls : Nat) (asset : Asset) (bucket : Bucket) :
    ((catalog.pass calls asset bucket).ending ≠ .done ∧
        ∃ fault, (catalog.pass calls asset bucket).result = .error fault ∧
          ∀ asset_name id keys, fault ≠ .ambiguousPartition asset_name id keys) ∨
      (catalog.pass calls asset bucket).ending = .done ∧
        (catalog.pass calls asset bucket).result = .ok (catalog.pass calls asset bucket).items := by
  obtain unfinished | ⟨fault, failed⟩ | ⟨done, -⟩ :=
    @Walk.run_none_cases _ Bucket.remote catalog.bucket asset calls Cursor.start.token bucket
  · refine .inl ⟨by simp [pass, unfinished], .store scanUnfinished, ?_, by simp⟩
    simp only [Walked.result, pass, unfinished]
  · obtain ⟨answer, refused⟩ := Walk.refuses_of_failed failed
    refine .inl ⟨by simp [pass, failed], fault, by simp only [Walked.result, pass, failed], ?_⟩
    cases refused <;> simp
  · exact .inr ⟨done, by simp only [Walked.result, pass, done]⟩

/-- The batch of a partition is that of the one key that the prefix and the id make. -/
theorem findPartition_of_unpatterned (unpatterned : asset.partitionPattern = none)
    (catalog : Catalog) (calls : Nat) (partition : String) (overrides : Overrides)
    (session : Session Bucket) :
    (catalog.findPartition Bucket.remote calls asset partition overrides session).1 =
      (catalog.pass calls asset session.store).result.bind fun keys =>
        if asset.keyPrefix ++ partition ∈ keys then
          .ok (catalog.defaults.describe asset overrides (asset.keyPrefix ++ partition))
        else .error (.noPartition asset.name partition) := by
  rw [findPartition_eq, scan_of_unpatterned unpatterned, Walked.result_map]
  obtain ⟨-, fault, failed, -⟩ | ⟨-, whole⟩ := catalog.pass_result_cases calls asset session.store
  · rw [failed]
    rfl
  · obtain ⟨distinct, lead⟩ := catalog.pass_ascends calls asset session.store
    rw [whole]
    generalize (catalog.pass calls asset session.store).items = keys at distinct lead
    have chosen_eq : (keys.filter fun key => (asset.remainder key).text = partition) =
        List.replicate (keys.count (asset.keyPrefix ++ partition))
          (asset.keyPrefix ++ partition) := by
      rw [← List.filter_eq]
      refine List.filter_congr fun key member => ?_
      simp only [Asset.remainder_text_eq_iff (lead key member)]
    simp only [Except.map, Except.bind, List.filter_map, List.map_map, Function.comp_def,
      List.map_id', chosen_eq, distinct.count]
    split
    · rfl
    · rfl

theorem findPartition_ne_ambiguous (unpatterned : asset.partitionPattern = none) (catalog : Catalog)
    (calls : Nat) (partition : String) (overrides : Overrides) (session : Session Bucket)
    (asset_name id : String) (keys : List String) :
    (catalog.findPartition Bucket.remote calls asset partition overrides session).1 ≠
      .error (.ambiguousPartition asset_name id keys) := by
  rw [findPartition_of_unpatterned unpatterned]
  obtain ⟨-, fault, failed, other⟩ | ⟨-, whole⟩ := catalog.pass_result_cases calls asset session.store
  · rw [failed]
    exact fun same => other asset_name id keys (Except.error.inj same)
  · simp only [whole, Except.bind]
    split
    · simp
    · simp

/--
Without a partition pattern the ids of a pass over a bucket are all different, one for each key in
the order of the keys, and the prefix before an id is the key.  They are listed exactly if the pass
comes to its end, and no partition is ambiguous.
-/
theorem remainders_identify_keys (found : catalog.assets.get? name = some asset)
    (unpatterned : asset.partitionPattern = none) (calls : Nat) (session : Session Bucket) :
    ((∃ ids, (catalog.partitionIds Bucket.remote calls name session).1 = .ok ids) ↔
        (catalog.pass calls asset session.store).ending = .done) ∧
      (∀ ids, (catalog.partitionIds Bucket.remote calls name session).1 = .ok ids →
        ids.map (fun id => asset.keyPrefix ++ id.text) =
            (catalog.pass calls asset session.store).items ∧
          ids.Nodup) ∧
      ∀ partition overrides asset_name id keys,
        (catalog.answer Bucket.remote calls ⟨some name, partition, overrides⟩ session).1 ≠
          .error (.ambiguousPartition asset_name id keys) := by
  rw [partitionIds_of_unpatterned found unpatterned, ← and_assoc]
  constructor
  · obtain ⟨unfinished, fault, failed, -⟩ | ⟨done, whole⟩ :=
      catalog.pass_result_cases calls asset session.store
    · rw [failed]
      refine ⟨iff_of_false ?_ unfinished, ?_⟩
      · rintro ⟨ids, listed⟩
        contradiction
      · intro ids listed
        contradiction
    · rw [whole]
      refine ⟨iff_of_true ⟨_, rfl⟩ done, ?_⟩
      rintro ids ⟨⟩
      obtain ⟨distinct, lead⟩ := catalog.pass_ascends calls asset session.store
      have keys_eq := Asset.map_keyPrefix_append_remainder lead
      rw [← keys_eq] at distinct
      exact ⟨keys_eq, distinct.of_map _⟩
  · intro partition overrides asset_name id keys
    cases given : partition.filter fun id => !id.isEmpty with
    | none => simp [answer, found, given]
    | some partition =>
        have unambiguous := findPartition_ne_ambiguous unpatterned catalog calls partition overrides
          session asset_name id keys
        simp only [answer, found, given]
        cases answered :
            (catalog.findPartition Bucket.remote calls asset partition overrides session).1 with
        | ok descriptor => simp [Except.map]
        | error fault =>
            rw [answered] at unambiguous
            exact fun same => unambiguous (congrArg Except.error (Except.error.inj same))

/-- A bucket with objects under a `d`, one of them at an encoded path, and another. -/
def encodedDays : Bucket :=
  ["d1", "d#2", "d/3", "e"].foldl (fun bucket key => bucket.put key ⟨none, none, [120]⟩)
    (Bucket.empty "b")

theorem remainders_identify_keys_encoded_days :
    pair.assets.get? "days" = some (everything "days" "d" 2) ∧
      (everything "days" "d" 2).partitionPattern = none ∧
      (pair.partitionIds Bucket.remote 2 "days" (.ofStore encodedDays (.steady ⟨0⟩ 0))).1 =
        .ok [⟨"%232"⟩, ⟨"1"⟩] ∧
      (pair.pass 2 (everything "days" "d" 2) encodedDays).items = ["d%232", "d1"] := by
  have found : pair.assets.get? "days" = some (everything "days" "d" 2) := rfl
  have listed : (pair.partitionIds Bucket.remote 2 "days"
      (.ofStore encodedDays (.steady ⟨0⟩ 0))).1 = .ok [⟨"%232"⟩, ⟨"1"⟩] := by
    rfl
  obtain ⟨-, identified, -⟩ :=
    remainders_identify_keys found rfl 2 (.ofStore encodedDays (.steady ⟨0⟩ 0))
  obtain ⟨keys_eq, -⟩ := identified _ listed
  exact ⟨found, rfl, listed, keys_eq.symm⟩

end Catalog
end BucketCatalog
