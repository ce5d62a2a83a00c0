import BucketCatalog.Asset
import BucketCatalog.Cursor
import BucketCatalog.Remote

/-!
# Walks over an asset

A walk reads the pages of an asset one after another and hands out the keys that belong to it.  It
reads a page only when all keys of the page before are handed out, and its cursor always holds the
token of the page that was read last: a walk that fails or is given up goes on there, and a walk
that comes to its end leaves the cursor at the beginning.
-/

namespace BucketCatalog

/-- The keys of a page that belong to an asset. -/
structure KeptPage where
  /-- The keys, in the order of the page. -/
  keys : List String
  /-- Whether there is another page. -/
  isTruncated : Bool
  /-- The token of the next page, if there is one. -/
  nextToken : Option String
  deriving DecidableEq

namespace Asset

/-- The request for the page of a token. -/
def request (asset : Asset) (bucket : String) (token : Option String) : Listing.Request where
  bucket := bucket
  keyPrefix := asset.keyPrefix
  delimiter := asset.delimiter
  maxKeys := asset.maxKeys
  token := token

/-- The keys of a page that are of the kind of the asset: its prefixes, or its objects that are not
empty.  An empty object only marks a folder. -/
def candidates (asset : Asset) (page : Listing.Page) : Except Fault (List String) :=
  match asset.kind with
  | .directory =>
      match page.commonPrefixes with
      | some prefixes => .ok prefixes
      | none =>
          let others := page.contents.map fun objects => objects.map Listing.Listed.key
          .error (.page asset.name asset.kind .noCommonPrefixes others)
  | .file =>
      match page.contents with
      | some objects => .ok ((objects.filter fun object => object.size != 0).map Listing.Listed.key)
      | none => .error (.page asset.name asset.kind .noContents page.commonPrefixes)

/-- What an asset keeps of a page.  A page that is not the last must say how to ask for the next. -/
def keep (asset : Asset) (page : Listing.Page) : Except Fault KeptPage := do
  let candidates ← asset.candidates page
  if page.isTruncated && page.nextToken.isNone then
    throw (.page asset.name asset.kind .noToken none)
  return {
    keys := candidates.filter asset.accepts
    isTruncated := page.isTruncated
    nextToken := page.next? }

/-- Read the page of a token and keep what belongs to the asset. -/
def readPage {State : Type} (asset : Asset) (remote : Remote State) (bucket : String)
    (token : Option String) (state : State) : Except Fault KeptPage × State :=
  match remote.list (asset.request bucket token) state with
  | (.error failure, state) => (.error (.store failure), state)
  | (.ok page, state) => (asset.keep page, state)

end Asset

/-- How a walk comes to rest. -/
inductive Ending where
  /-- As many items as wanted were handed out. -/
  | stopped
  /-- There is nothing more. -/
  | done
  /-- A page could not be read. -/
  | failed (fault : Fault)
  /-- As many pages as allowed were read. -/
  | unfinished

/-- What a walk handed out and where it came to rest. -/
structure Walked (Item : Type) where
  /-- The items, in order. -/
  items : List Item
  /-- Why the walk came to rest. -/
  ending : Ending
  /-- Where the next walk starts. -/
  cursor : Cursor

namespace Walked

/-- The items of a walk with others before them. -/
def prepend {Item : Type} (items : List Item) (walked : Walked Item) : Walked Item :=
  { walked with items := items ++ walked.items }

end Walked

namespace Walk

/-- Hand out keys while items are wanted; with the items the number of those still wanted. -/
def handOut {State Item : Type} (act : String → State → Item × State) :
    Option Nat → List String → State → List Item × Option Nat × State
  | wanted, [], state => ([], wanted, state)
  | some 0, _ :: _, state => ([], some 0, state)
  | wanted, key :: keys, state =>
      let (item, state) := act key state
      let (items, wanted, state) := handOut act (wanted.map fun count => count - 1) keys state
      (item :: items, wanted, state)

/--
Walk over an asset from the page of a token, reading at most `calls` pages and handing out as many
items as wanted, all of them if no number is given.  `act` makes the item of a key when its turn
comes.
-/
def run {State Item : Type} (remote : Remote State) (bucket : String) (asset : Asset)
    (act : String → State → Item × State) :
    Nat → Option Nat → Option String → State → Walked Item × State
  | _, some 0, token, state => (⟨[], .stopped, ⟨token⟩⟩, state)
  | 0, _, token, state => (⟨[], .unfinished, ⟨token⟩⟩, state)
  | calls + 1, wanted, token, state =>
      match asset.readPage remote bucket token state with
      | (.error fault, state) => (⟨[], .failed fault, ⟨token⟩⟩, state)
      | (.ok page, state) =>
          match handOut act wanted page.keys state with
          | (items, some 0, state) => (⟨items, .stopped, ⟨token⟩⟩, state)
          | (items, wanted, state) =>
              match page.nextToken with
              | none => (⟨items, .done, .start⟩, state)
              | some next =>
                  let (walked, state) :=
                    run remote bucket asset act calls wanted (some next) state
                  (walked.prepend items, state)

/-- The items of keys that are handed out as they are. -/
def key {State : Type} (key : String) (state : State) : String × State :=
  (key, state)

end Walk
end BucketCatalog
