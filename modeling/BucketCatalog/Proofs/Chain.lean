import BucketCatalog.Proofs.Bucket
import BucketCatalog.Remote.Chain

/-!
# Steps of a chain

`Page.listed` reads the entries of a page back.  A call whose answer is made from entries either
ends the chain or goes on after the last entry of its page.
-/

namespace BucketCatalog

open Listing

namespace Listing

theorem Request.pageSize_pos (request : Request) : 0 < request.pageSize :=
  Nat.lt_of_lt_of_le Nat.zero_lt_one (Nat.le_max_left _ _)

/-- The entries that a page hands out, objects first. -/
def Page.listed (page : Page) : List (String × Entry) :=
  (page.contents.getD []).map (fun object => (object.key, .object object.size)) ++
    (page.commonPrefixes.getD []).map fun name => (name, .folder)

variable {entries : List (String × Entry)} {size : Nat}

theorem getD_nonEmpty? {α : Type} (items : List α) : (nonEmpty? items).getD [] = items := by
  cases items with
  | nil => rfl
  | cons item items => rfl

/-- A page hands out the entries that it is made from. -/
theorem listed_ofEntries_perm (entries : List (String × Entry)) (size : Nat) :
    ((Page.ofEntries entries size).listed).Perm (entries.take size) := by
  simp only [Page.ofEntries, Page.listed, getD_nonEmpty?]
  generalize entries.take size = kept
  induction kept with
  | nil => exact .nil
  | cons head kept ih =>
      obtain ⟨name, entry⟩ := head
      cases entry with
      | folder =>
          simpa [List.filterMap_cons, Entry.listed?, Entry.folder?] using
            List.perm_middle.trans (ih.cons _)
      | object size => simpa [List.filterMap_cons, Entry.listed?, Entry.folder?] using ih

theorem next?_ofEntries_eq_none (fits : entries.length ≤ size) :
    (Page.ofEntries entries size).next? = none := by
  simp [Page.ofEntries, Page.next?, not_lt.mpr fits]

/-- A page with entries after it brings the name of its last entry. -/
theorem next?_ofEntries_of_more {front : List (String × Entry)} {last : String × Entry}
    (more : size < entries.length) (block : entries.take size = front ++ [last]) :
    (Page.ofEntries entries size).next? = some last.1 := by
  simp [Page.ofEntries, Page.next?, more, block]

theorem exists_block (positive : 0 < size) (more : size < entries.length) :
    ∃ front last, entries.take size = front ++ [last] := by
  have nonempty : entries.take size ≠ [] := by
    rw [← List.length_pos_iff, List.length_take]
    omega
  exact ⟨(entries.take size).dropLast, (entries.take size).getLast nonempty,
    (List.dropLast_append_getLast nonempty).symm⟩

section Block

variable {α : Type} {name : α → String} {items front : List α} {last item : α}

/-- The last item of a block is among the items that the block is taken from. -/
theorem last_mem (block : items.take size = front ++ [last]) : last ∈ items := by
  apply List.mem_of_mem_take (i := size)
  simp [block]

theorem name_le_last (ascending : items.Pairwise fun first second => name first < name second)
    (block : items.take size = front ++ [last]) (member : item ∈ items.take size) :
    name item ≤ name last := by
  have sorted := ascending.sublist (List.take_sublist size items)
  rw [block] at member
  rw [block, List.pairwise_append] at sorted
  rcases List.mem_append.mp member with before | here
  · exact (sorted.2.2 item before last List.mem_cons_self).le
  · rw [List.mem_singleton.mp here]

theorem last_lt_name (ascending : items.Pairwise fun first second => name first < name second)
    (block : items.take size = front ++ [last]) (member : item ∈ items.drop size) :
    name last < name item := by
  rw [← List.take_append_drop size items, List.pairwise_append, block] at ascending
  exact ascending.2.2 last (by simp) item member

/-- What comes after a block are the items past its last name. -/
theorem filter_isLeft_eq_drop
    (ascending : items.Pairwise fun first second => name first < name second)
    (block : items.take size = front ++ [last]) :
    (items.filter fun item => isLeft (some (name last)) (name item)) = items.drop size := by
  have none_left :
      (items.take size).filter (fun item => isLeft (some (name last)) (name item)) = [] := by
    rw [List.filter_eq_nil_iff]
    intro item member
    rw [isLeft_some_iff]
    exact not_lt.mpr (name_le_last ascending block member)
  have all_left :
      (items.drop size).filter (fun item => isLeft (some (name last)) (name item)) =
        items.drop size := by
    rw [List.filter_eq_self]
    intro item member
    exact isLeft_some_iff.mpr (last_lt_name ascending block member)
  conv_lhs => rw [← List.take_append_drop size items, List.filter_append, none_left, all_left,
    List.nil_append]

end Block

end Listing

/-- The entries that a chain hands out, page by page. -/
def Chain.listed (chain : Chain) : List (String × Entry) :=
  chain.pages.flatMap Page.listed

@[simp]
theorem Chain.listed_prepend (page : Page) (chain : Chain) :
    (chain.prepend page).listed = page.listed ++ chain.listed := rfl

/-- A call whose page has everything that is left ends the chain; after any other call the chain
goes on after the last entry of the page. -/
theorem Remote.chain_of_answer {State : Type} {remote : Remote State} {request : Request}
    {state next : State} {entries : List (String × Entry)} (calls : Nat)
    (answer : remote.list request state =
      (.ok (.ofEntries entries request.pageSize), next)) :
    entries.length ≤ request.pageSize ∧
        remote.chain (calls + 1) request state =
          (⟨[.ofEntries entries request.pageSize], .complete⟩, next) ∨
      ∃ front last, request.pageSize < entries.length ∧
        entries.take request.pageSize = front ++ [last] ∧
        remote.chain (calls + 1) request state =
          ((remote.chain calls { request with token := some last.1 } next).1.prepend
              (.ofEntries entries request.pageSize),
            (remote.chain calls { request with token := some last.1 } next).2) := by
  rw [Remote.chain, answer]
  by_cases fits : entries.length ≤ request.pageSize
  · exact .inl ⟨fits, by simp [next?_ofEntries_eq_none fits]⟩
  · have more := not_le.mp fits
    obtain ⟨front, last, block⟩ := exists_block request.pageSize_pos more
    exact .inr ⟨front, last, more, block, by simp only [next?_ofEntries_of_more more block]⟩

end BucketCatalog
