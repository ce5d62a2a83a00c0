import BucketCatalog.Catalog.Action

/-!
# Catalogs over one store

A catalog can be copied to walk over its assets at two positions at once.  The copies share the
store, the clock and the warnings, but each has cursors of its own.
-/

namespace BucketCatalog

/-- A catalog and its copies, over one store. -/
structure Fleet (State : Type) where
  /-- The catalogs, in the order in which they were made. -/
  catalogs : List Catalog
  /-- The store they share. -/
  session : Session State

/-- What is done with one of the catalogs of a fleet. -/
inductive Move where
  /-- An action on the catalog. -/
  | act (action : Action)
  /-- Copy the catalog as it is. -/
  | copy

namespace Fleet

/-- The fleet of a single catalog. -/
def single {State : Type} (catalog : Catalog) (session : Session State) : Fleet State where
  catalogs := [catalog]
  session := session

/-- Do something with the catalog of a number; nothing happens if there is none. -/
def move {State : Type} (fleet : Fleet State) (remote : Remote State) (calls index : Nat)
    (move : Move) : Outcome × Fleet State :=
  match fleet.catalogs[index]?, move with
  | none, _ => (.done, fleet)
  | some catalog, .copy => (.done, { fleet with catalogs := fleet.catalogs ++ [catalog] })
  | some catalog, .act action =>
      let (outcome, catalog, session) := catalog.perform remote calls action fleet.session
      (outcome, { catalogs := fleet.catalogs.set index catalog, session := session })

end Fleet
end BucketCatalog
