import BucketCatalog.Json
import BucketCatalog.Decimal.Shortest

/-!
# Printing of JSON

One line of text per value, members in the order of the object.
-/

namespace BucketCatalog
namespace Json

/-- The lowercase hexadecimal digit of a number below 16. -/
def hexDigit (value : Nat) : Char :=
  Nat.digitChar value

/-- How a character stands inside a quoted text. -/
def quotedChar (char : Char) : List Char :=
  if char = '"' then ['\\', '"']
  else if char = '\\' then ['\\', '\\']
  else if char.toNat < 32 then
    ['\\', 'u', '0', '0', hexDigit (char.toNat / 16), hexDigit (char.toNat % 16)]
  else [char]

/-- A text between quotes. -/
def quoted (text : String) : String :=
  String.ofList ('"' :: text.toList.flatMap quotedChar ++ ['"'])

mutual

/-- The text of a value. -/
def render : Json → String
  | .null => "null"
  | .bool true => "true"
  | .bool false => "false"
  | .int value => toString value
  | .double bits => Decimal.text bits
  | .str text => quoted text
  | .arr items => "[" ++ renderItems items ++ "]"
  | .obj fields => "\x7b" ++ renderFields fields ++ "\x7d"

/-- The texts of values with commas between them. -/
def renderItems : List Json → String
  | [] => ""
  | [item] => render item
  | item :: next :: rest => render item ++ "," ++ renderItems (next :: rest)

/-- The texts of members with commas between them. -/
def renderFields : List (String × Json) → String
  | [] => ""
  | [(name, value)] => quoted name ++ ":" ++ render value
  | (name, value) :: next :: rest =>
      quoted name ++ ":" ++ render value ++ "," ++ renderFields (next :: rest)

end

end Json
end BucketCatalog
