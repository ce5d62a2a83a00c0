import BucketCatalog.Listing.Page
import BucketCatalog.StoreFailure

/-!
# Entries of a listing

A key under a prefix is listed either as itself or, when the delimiter occurs after the prefix, as
the common prefix that ends with the first such delimiter.  `gather` reads keys in order until it
holds as many distinct entries as it may, and `Page.ofEntries` cuts the page out of them: one entry
more than the page holds tells that there is another page.
-/

namespace BucketCatalog
namespace Listing

/-- What is listed under a name. -/
inductive Entry where
  /-- A common prefix of keys. -/
  | folder
  /-- An object of a size. -/
  | object (size : UInt64)
  deriving DecidableEq

/-- The name and the entry of an object under a prefix; none if its key does not start with it. -/
def rollUp (keyPrefix delimiter : String) (object : Listed) : Option (String × Entry) :=
  match Text.dropLead? keyPrefix.toList object.key.toList with
  | none => none
  | some rest =>
      if delimiter.isEmpty then some (object.key, .object object.size)
      else
        match Text.splitFirst delimiter.toList rest with
        | none => some (object.key, .object object.size)
        | some (before, _) => some (keyPrefix ++ String.ofList before ++ delimiter, .folder)

/-- The objects that a store delivers for a listing, and the failure that ends them early. -/
structure Feed where
  /-- The objects, in the order of delivery. -/
  objects : List Listed
  /-- The failure after the last object, if there is one. -/
  failure : Option StoreFailure
  deriving DecidableEq

/-- What bounds the entries of one listing call. -/
structure Bounds where
  /-- Only keys that start with this text are listed. -/
  keyPrefix : String
  /-- Where keys are rolled up. -/
  delimiter : String
  /-- Only entries after this name are listed. -/
  after : Option String
  /-- The most entries to hold. -/
  limit : Nat

/-- Whether a name is not past the name that a listing goes on after. -/
def Bounds.isPassed (bounds : Bounds) (name : String) : Bool :=
  match bounds.after with
  | none => false
  | some token => name ≤ token

/--
Read objects in order and hold their entries, each name once.  Reading stops at the first new name
when as many entries as allowed are held; a failure counts only if it is reached.
-/
def gather (bounds : Bounds) (failure : Option StoreFailure) :
    Table Entry → List Listed → Except StoreFailure (Table Entry)
  | held, [] =>
      match failure with
      | none => .ok held
      | some failure => .error failure
  | held, object :: rest =>
      match rollUp bounds.keyPrefix bounds.delimiter object with
      | none => gather bounds failure held rest
      | some (name, entry) =>
          if bounds.isPassed name || held.contains name then gather bounds failure held rest
          else if held.size = bounds.limit then .ok held
          else gather bounds failure (held.insert name entry) rest

/-- The entries of a feed. -/
def Feed.entries (feed : Feed) (bounds : Bounds) : Except StoreFailure (Table Entry) :=
  gather bounds feed.failure .empty feed.objects

/-- A list, unless it is empty. -/
def nonEmpty? {α : Type} (items : List α) : Option (List α) :=
  if items.isEmpty then none else some items

/-- The object of an entry, if it is one. -/
def Entry.listed? : String × Entry → Option Listed
  | (_, .folder) => none
  | (name, .object size) => some ⟨name, size⟩

/-- The name of an entry that is a common prefix. -/
def Entry.folder? : String × Entry → Option String
  | (name, .folder) => some name
  | (_, .object _) => none

/-- The page of the first `pageSize` entries.  Its token is the name of its last entry. -/
def Page.ofEntries (entries : List (String × Entry)) (pageSize : Nat) : Page :=
  let kept := entries.take pageSize
  let isTruncated : Bool := pageSize < entries.length
  { contents := nonEmpty? (kept.filterMap Entry.listed?)
    commonPrefixes := nonEmpty? (kept.filterMap Entry.folder?)
    isTruncated := isTruncated
    nextToken := if isTruncated then kept.getLast?.map Prod.fst else none }

end Listing
end BucketCatalog
