import BucketCatalog.Unicode.Next

/-!
# Quoted texts

A text between double quotes, in which every character can be seen: quotes and backslashes stand
after a backslash, the usual blanks have letters of their own, and a character that has no shape of
its own is written by its code point.
-/

namespace BucketCatalog
namespace Text

/-- How a character stands inside a quoted text. -/
def quotedChar (char : Char) : List Char :=
  match char with
  | '"' => ['\\', '"']
  | '\\' => ['\\', '\\']
  | '\n' => ['\\', 'n']
  | '\r' => ['\\', 'r']
  | '\t' => ['\\', 't']
  | '\x00' => ['\\', '0']
  | _ =>
      if ' ' ≤ char ∧ char ≤ '~' then [char]
      else if Unicode.shapeless.contains char.toNat then
        ['\\', 'u', '\x7b'] ++ Nat.toDigits 16 char.toNat ++ ['\x7d']
      else [char]

/-- A text between double quotes. -/
def quoted (text : String) : String :=
  String.ofList ('"' :: text.toList.flatMap quotedChar ++ ['"'])

end Text
end BucketCatalog
