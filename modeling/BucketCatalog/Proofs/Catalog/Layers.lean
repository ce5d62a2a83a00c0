import BucketCatalog.Proofs.Catalog

/-!
# Layers of reader settings

A descriptor is merged from three layers: what a call sets, what the settings of the asset set under
it, and what those of the catalog set under both.  An option comes as a whole from the topmost layer
that has it, and the reader method from the topmost that names one.  What was merged stands over
both lower layers, so that merging it once more changes nothing.
-/

namespace BucketCatalog

/-- What a descriptor has of the settings of a call, of an asset and of a catalog. -/
structure Descriptor.MergesLayers (descriptor : Descriptor) (call : Overrides)
    (asset : AssetSettings) (catalog : Settings) : Prop where
  /-- An option has the value that it has in the topmost layer with the option. -/
  options : ∀ name, descriptor.readerOptions.get? name =
    [call.readerOptions, asset.readerOptions, catalog.readerOptions].findSome? fun layer =>
      layer.get? name
  /-- The method is the topmost that is there and not empty. -/
  method : descriptor.readerMethod =
    [call.readerMethod, asset.readerMethod, catalog.readerMethod].findSome? fun method =>
      method.filter (· ≠ "")
  /-- The limit is that of the call, unless that is zero. -/
  limit : ∀ limit, descriptor.limit = some limit ↔ call.limit = some limit ∧ 0 < limit

/-- The settings of a call that sets what a descriptor says. -/
def Descriptor.overrides (descriptor : Descriptor) : Overrides where
  readerMethod := descriptor.readerMethod
  readerOptions := descriptor.readerOptions
  limit := descriptor.limit

namespace BatchDefaults

variable (defaults : BatchDefaults) (asset : Asset) (overrides : Overrides) (key : String)

theorem firstNamed_cons (text : Option String) (texts : List (Option String)) :
    firstNamed (text :: texts) = (text.filter (· ≠ "")).or (firstNamed texts) := by
  cases text with
  | none => rfl
  | some text =>
      by_cases empty : text = ""
      · subst empty
        rfl
      · simp [firstNamed, Option.filter, empty]

theorem firstNamed_eq_findSome? (texts : List (Option String)) :
    firstNamed texts = texts.findSome? fun text => text.filter (· ≠ "") := by
  induction texts with
  | nil => rfl
  | cons text texts ih =>
      rw [firstNamed_cons, ih, List.findSome?_cons]
      cases text.filter (· ≠ "") with
      | none => rfl
      | some named => rfl

theorem filter_firstNamed (texts : List (Option String)) :
    (firstNamed texts).filter (· ≠ "") = firstNamed texts := by
  cases found : firstNamed texts with
  | none => rfl
  | some named =>
      have not_empty : named ≠ "" := by simpa using List.find?_some found
      simp [Option.filter, not_empty]

/-- A name that was found stays the first when it takes the place of the first text. -/
theorem firstNamed_firstNamed (text : Option String) (texts : List (Option String)) :
    firstNamed (firstNamed (text :: texts) :: texts) = firstNamed (text :: texts) := by
  rw [firstNamed_cons (firstNamed _), filter_firstNamed, firstNamed_cons, Option.or_assoc,
    Option.or_self]

theorem get?_readerOptions_describe (name : String) :
    (defaults.describe asset overrides key).readerOptions.get? name =
      [overrides.readerOptions, asset.readerOptions, defaults.readerOptions].findSome? fun layer =>
        layer.get? name := by
  simp only [describe, Table.get?_overlay, List.findSome?_cons, List.findSome?_nil]
  cases overrides.readerOptions.get? name with
  | some value => rfl
  | none =>
      cases asset.readerOptions.get? name with
      | some value => rfl
      | none => cases defaults.readerOptions.get? name <;> rfl

theorem limit_describe_eq_some_iff (limit : UInt64) :
    (defaults.describe asset overrides key).limit = some limit ↔
      overrides.limit = some limit ∧ 0 < limit := by
  simp [describe, Option.filter_eq_some_iff, UInt64.pos_iff_ne_zero]

/-- A call that sets what a descriptor says gets the descriptor again. -/
theorem describe_overrides :
    defaults.describe asset (defaults.describe asset overrides key).overrides key =
      defaults.describe asset overrides key := by
  simp only [describe, Descriptor.overrides, Descriptor.mk.injEq, true_and]
  refine ⟨firstNamed_firstNamed _ _, Table.overlay_overlay _ _, ?_⟩
  rw [Option.filter_filter]
  simp only [Bool.and_self]

end BatchDefaults

variable {name : String} {options : AssetSettings} {origin : Settings} {asset : Asset}

/--
The batches of an asset merge what the call, the settings that the asset was resolved from and the
settings of the catalog say, whichever catalog filled in the rest of the asset.  To merge again from
the outcome gives the same descriptor.
-/
theorem Settings.describe_merges_layers (resolved : Asset.resolve name options origin = .ok asset)
    (catalog : Settings) (overrides : Overrides) (key : String) :
    (catalog.batchDefaults.describe asset overrides key).MergesLayers overrides options catalog ∧
      catalog.batchDefaults.describe asset
          (catalog.batchDefaults.describe asset overrides key).overrides key =
        catalog.batchDefaults.describe asset overrides key := by
  refine ⟨⟨fun option => ?options, ?method, fun limit => ?limit⟩, ?again⟩
  case again => exact catalog.batchDefaults.describe_overrides asset overrides key
  case limit => exact catalog.batchDefaults.limit_describe_eq_some_iff asset overrides key limit
  all_goals
    obtain ⟨-, -, -, filter, partitionPattern, -, -, rfl⟩ := Asset.exists_eq_of_resolve resolved
  case options => exact catalog.batchDefaults.get?_readerOptions_describe _ overrides key option
  case method => exact BatchDefaults.firstNamed_eq_findSome? _

/-- Settings of a catalog with a method, a header and the types of two columns. -/
def typed : Settings :=
  { Settings.ofBucket "b" with
    readerMethod := some "csv"
    readerOptions := .ofList
      [("header", .int 0), ("types", .obj [("x", .str "int"), ("y", .str "str")])] }

/-- Settings of an asset with an empty method and a separator. -/
def separated : AssetSettings :=
  { AssetSettings.ofPrefix "logs/" with
    readerMethod := some ""
    readerOptions := .ofList [("header", .int 1), ("sep", .str "~")] }

/-- The asset of the settings. -/
def separatedLogs : Asset :=
  { everything "logs" "logs/" 1000 with
    readerMethod := some ""
    readerOptions := .ofList [("header", .int 1), ("sep", .str "~")] }

/-- A call that takes the separator away, sets the type of one column, and has a limit of zero. -/
def retyped : Overrides where
  readerMethod := none
  readerOptions := .ofList [("sep", .null), ("types", .obj [("x", .str "float")])]
  limit := some 0

theorem describe_merges_layers_retyped :
    Asset.resolve "logs" separated typed = .ok separatedLogs ∧
      (typed.batchDefaults.describe separatedLogs retyped "logs/1").MergesLayers retyped separated
        typed ∧
      (typed.batchDefaults.describe separatedLogs retyped "logs/1").readerOptions.get? "sep" =
        some .null ∧
      (typed.batchDefaults.describe separatedLogs retyped "logs/1").readerOptions.get? "types" =
        some (.obj [("x", .str "float")]) ∧
      (typed.batchDefaults.describe separatedLogs retyped "logs/1").readerMethod = some "csv" := by
  have resolved : Asset.resolve "logs" separated typed = .ok separatedLogs := by
    rfl
  obtain ⟨merged, -⟩ := Settings.describe_merges_layers resolved typed retyped "logs/1"
  refine ⟨resolved, merged, ?_, ?_, ?_⟩
  · rw [merged.options]
    rfl
  · rw [merged.options]
    rfl
  · rw [merged.method]
    rfl

end BucketCatalog
