import BucketCatalog.Text

/-!
# Object locators

The address `scheme://bucket/key` of an object.  The key is everything after the bucket, as it is:
nothing in it is decoded or escaped.  The scheme ends at the first `://` and the bucket at the first
`/` after that.
-/

namespace BucketCatalog

/-- Why a text is not the address of an object. -/
inductive LocatorFault where
  /-- No `://` ends the scheme. -/
  | noSchemeMark
  /-- No `/` ends the bucket. -/
  | noKey
  /-- Nothing is before `://`. -/
  | emptyScheme
  /-- Nothing is between `://` and the next `/`. -/
  | emptyBucket
  /-- Nothing is after the bucket. -/
  | emptyKey
  /-- A reason in words. -/
  | stated (reason : String)
  deriving DecidableEq

/-- The words for a fault. -/
def LocatorFault.reason : LocatorFault → String
  | .noSchemeMark => "missing scheme separator"
  | .noKey => "missing key"
  | .emptyScheme => "empty scheme"
  | .emptyBucket => "empty bucket"
  | .emptyKey => "empty key"
  | .stated reason => reason

/-- The address of an object. -/
structure Locator where
  /-- The scheme, before `://`. -/
  scheme : String
  /-- The bucket, up to the first `/` after the scheme. -/
  bucket : String
  /-- The key, after the bucket. -/
  key : String
  deriving DecidableEq

namespace Locator

/-- The text of an address. -/
def text (locator : Locator) : String :=
  locator.scheme ++ "://" ++ locator.bucket ++ "/" ++ locator.key

/-- The address that a text is, if each of its parts is there and not empty. -/
def parse (text : String) : Except LocatorFault Locator :=
  match Text.splitFirst [':', '/', '/'] text.toList with
  | none => .error .noSchemeMark
  | some (scheme, rest) =>
      match Text.splitFirst ['/'] rest with
      | none => .error .noKey
      | some (bucket, key) =>
          if scheme.isEmpty then .error .emptyScheme
          else if bucket.isEmpty then .error .emptyBucket
          else if key.isEmpty then .error .emptyKey
          else .ok ⟨String.ofList scheme, String.ofList bucket, String.ofList key⟩

/-- A text parses exactly if it can be cut at both marks and none of the three parts is empty. -/
theorem parse_eq_ok_iff {text : String} {locator : Locator} :
    parse text = .ok locator ↔
      ∃ rest, Text.splitFirst [':', '/', '/'] text.toList = some (locator.scheme.toList, rest) ∧
        Text.splitFirst ['/'] rest = some (locator.bucket.toList, locator.key.toList) ∧
          locator.scheme ≠ "" ∧ locator.bucket ≠ "" ∧ locator.key ≠ "" := by
  rw [parse]
  cases schemeCut : Text.splitFirst [':', '/', '/'] text.toList with
  | none => simp
  | some parts =>
      obtain ⟨scheme, rest⟩ := parts
      cases bucketCut : Text.splitFirst ['/'] rest with
      | none => simp [bucketCut]
      | some parts =>
          obtain ⟨bucket, key⟩ := parts
          obtain ⟨scheme_text, bucket_text, key_text⟩ := locator
          simp only [bucketCut, Option.some.injEq, Prod.mk.injEq]
          constructor
          · intro parsed
            split at parsed
            · contradiction
            · split at parsed
              · contradiction
              · split at parsed
                · contradiction
                · cases parsed
                  exact ⟨rest, by simp_all⟩
          · rintro ⟨_, ⟨rfl, rfl⟩, cut, some_scheme, some_bucket, some_key⟩
            obtain ⟨rfl, rfl⟩ : bucket = bucket_text.toList ∧ key = key_text.toList := by
              simpa [bucketCut] using cut
            simp [some_scheme, some_bucket, some_key]

/-- A text that parses is the text of the address it parses to. -/
theorem text_of_parse {text : String} {locator : Locator} (parsed : parse text = .ok locator) :
    locator.text = text := by
  obtain ⟨rest, schemeCut, bucketCut, -⟩ := parse_eq_ok_iff.mp parsed
  have whole := Text.eq_of_splitFirst schemeCut
  have part := Text.eq_of_splitFirst bucketCut
  simp [← String.toList_inj, Locator.text, whole, part]

end Locator
end BucketCatalog
