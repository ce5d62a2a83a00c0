import BucketCatalog.Remote

/-!
# Chains of pages

A listing is read to its end by asking for its first page and then, as long as a page says that
there is more, for the page of the token that it brings.
-/

namespace BucketCatalog

/-- How a chain of pages ends. -/
inductive ChainEnd where
  /-- The last page says that there is no more. -/
  | complete
  /-- The store failed to answer for the next page. -/
  | failed (failure : StoreFailure)
  /-- As many pages as allowed were asked for. -/
  | unfinished
  deriving DecidableEq

/-- The pages of one listing, read one after another. -/
structure Chain where
  /-- The pages, in order. -/
  pages : List Listing.Page
  /-- Why there are no more of them. -/
  ending : ChainEnd
  deriving DecidableEq

/-- The failure that ends a chain, if one does. -/
def Chain.failure? (chain : Chain) : Option StoreFailure :=
  match chain.ending with
  | .failed failure => some failure
  | _ => none

/-- The chain with a page before its first. -/
def Chain.prepend (page : Listing.Page) (chain : Chain) : Chain :=
  { chain with pages := page :: chain.pages }

/-- The pages of a listing from a request on, of which at most `calls` are asked for. -/
def Remote.chain {State : Type} (remote : Remote State) :
    Nat → Listing.Request → State → Chain × State
  | 0, _, state => (⟨[], .unfinished⟩, state)
  | calls + 1, request, state =>
      match remote.list request state with
      | (.error failure, state) => (⟨[], .failed failure⟩, state)
      | (.ok page, state) =>
          match page.next? with
          | none => (⟨[page], .complete⟩, state)
          | some token =>
              let (chain, state) := remote.chain calls { request with token := some token } state
              (chain.prepend page, state)

end BucketCatalog
