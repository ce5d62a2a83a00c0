import BucketCatalog.Remote

/-!
# Scripted stores

A store that answers from a script: pages by the token of the request, objects by their key.
Several answers for one token are given in turn, and the last of them again and again.
-/

namespace BucketCatalog

/-- The answers of a scripted store. -/
structure Script where
  /-- The answers to listings, each for the token of its request. -/
  pages : List (Option String × Except StoreFailure Listing.Page)
  /-- The answers to retrievals, each for its key. -/
  objects : List (String × Except StoreFailure Retrieved)

namespace Script

/-- The first answer for a token, and the answers that are left after it is given. -/
def takePage (token : Option String) :
    List (Option String × Except StoreFailure Listing.Page) →
      Option (Except StoreFailure Listing.Page) ×
        List (Option String × Except StoreFailure Listing.Page)
  | [] => (none, [])
  | (name, answer) :: rest =>
      if name = token then
        if rest.any fun other => other.1 = token then (some answer, rest)
        else (some answer, (name, answer) :: rest)
      else
        let (found, left) := takePage token rest
        (found, (name, answer) :: left)

/-- The answer to a listing that the script does not have. -/
def noPage : StoreFailure :=
  .request "no page scripted for token" "scripted" true

/-- The answer to a retrieval that the script does not have. -/
def noObject (key : String) : StoreFailure :=
  .request ("get '" ++ key ++ "' not scripted") "scripted" false

/-- The scripted store. -/
def remote : Remote Script where
  list := fun request script =>
    let (answer, pages) := takePage request.token script.pages
    (answer.getD (.error noPage), { script with pages := pages })
  retrieve := fun _ key script =>
    match script.objects.find? fun object => object.1 = key with
    | some object => (object.2, script)
    | none => (.error (noObject key), script)

end Script
end BucketCatalog
