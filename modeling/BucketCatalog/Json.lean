import BucketCatalog.Table

/-!
# JSON values

Values of JSON documents.  Integers that fit 64 bits, signed or unsigned, are exact; every other
number is a double, held by its bits so that equality of values is equality of what was written.
Objects list their members in byte order of the names, each name once.
-/

namespace BucketCatalog

/-- A JSON value. -/
inductive Json where
  /-- The value `null`. -/
  | null
  /-- A truth value. -/
  | bool (value : Bool)
  /-- An integer from `-2 ^ 63` to `2 ^ 64 - 1`. -/
  | int (value : Int)
  /-- Any other number, by the bits of the double. -/
  | double (bits : UInt64)
  /-- A text. -/
  | str (text : String)
  /-- A sequence of values. -/
  | arr (items : List Json)
  /-- Named values in byte order of the names. -/
  | obj (fields : List (String × Json))
  deriving Inhabited

namespace Json

/-- An object of the given members, put in order; a later member replaces an earlier one. -/
def object (fields : List (String × Json)) : Json :=
  .obj (Table.ofList fields).entries

/-- The object of a table. -/
def ofTable (table : Table Json) : Json :=
  .obj table.entries

/-- A natural number. -/
def nat (value : Nat) : Json :=
  .int value

/-- `null` for nothing. -/
def option {α : Type} (encode : α → Json) : Option α → Json
  | none => .null
  | some value => encode value

/-- A sequence. -/
def list {α : Type} (encode : α → Json) (items : List α) : Json :=
  .arr (items.map encode)

/-- An optional text. -/
def optionStr : Option String → Json :=
  option .str

/-- The member of an object; `null` if there is none. -/
def member (name : String) : Json → Json
  | .obj fields => (Entries.find? name fields).getD .null
  | _ => .null

/-- The integers that are kept exact. -/
def isExact (value : Int) : Bool :=
  decide (-9223372036854775808 ≤ value) && decide (value < UInt64.size)

end Json
end BucketCatalog
