import BucketCatalog.Json

/-!
# Reading of JSON text

`parse` reads one JSON document.  Each reading function gets a bound on the nesting and on the
number of members it may still open; the length of the text is always enough, since every step takes
at least one character.
-/

namespace BucketCatalog
namespace Json

/-- Whether a character is one of the four blanks of the format. -/
def isBlank (char : Char) : Bool :=
  char = ' ' || char = '\t' || char = '\n' || char = '\r'

/-- The text without blanks at its start. -/
def skipBlanks (text : List Char) : List Char :=
  text.dropWhile isBlank

/-- The value of a hexadecimal digit of either case. -/
def hexValue? (char : Char) : Option Nat :=
  if '0' ≤ char ∧ char ≤ '9' then some (char.toNat - '0'.toNat)
  else if 'a' ≤ char ∧ char ≤ 'f' then some (char.toNat - 'a'.toNat + 10)
  else if 'A' ≤ char ∧ char ≤ 'F' then some (char.toNat - 'A'.toNat + 10)
  else none

/-- Four hexadecimal digits and what follows them. -/
def readUnit : List Char → Option (Nat × List Char)
  | first :: second :: third :: fourth :: rest => do
      let high := (← hexValue? first) * 16 + (← hexValue? second)
      let low := (← hexValue? third) * 16 + (← hexValue? fourth)
      some (high * 256 + low, rest)
  | _ => none

/-- The character that a letter after a backslash stands for. -/
def escapeChar? : Char → Option Char
  | '"' => some '"'
  | '\\' => some '\\'
  | '/' => some '/'
  | 'b' => some '\x08'
  | 'f' => some '\x0c'
  | 'n' => some '\n'
  | 'r' => some '\r'
  | 't' => some '\t'
  | _ => none

/-- The character of a numeric escape, which takes a second unit when the first opens a pair. -/
def readEscapedUnit (text : List Char) : Option (Char × List Char) := do
  let (unit, rest) ← readUnit text
  if 0xD800 ≤ unit ∧ unit < 0xDC00 then
    match rest with
    | '\\' :: 'u' :: rest =>
        let (second, rest) ← readUnit rest
        if 0xDC00 ≤ second ∧ second < 0xE000 then
          some (Char.ofNat (0x10000 + (unit - 0xD800) * 0x400 + (second - 0xDC00)), rest)
        else none
    | _ => none
  else if 0xDC00 ≤ unit ∧ unit < 0xE000 then none
  else some (Char.ofNat unit, rest)

/-- The characters of a quoted text up to its closing quote, newest first. -/
def readQuoted : Nat → List Char → List Char → Option (List Char × List Char)
  | 0, _, _ => none
  | _ + 1, _, [] => none
  | _ + 1, held, '"' :: rest => some (held.reverse, rest)
  | bound + 1, held, '\\' :: 'u' :: rest => do
      let (char, rest) ← readEscapedUnit rest
      readQuoted bound (char :: held) rest
  | bound + 1, held, '\\' :: letter :: rest => do
      let char ← escapeChar? letter
      readQuoted bound (char :: held) rest
  | bound + 1, held, char :: rest =>
      if char = '\\' ∨ char.toNat < 32 then none else readQuoted bound (char :: held) rest

/-- The value of a decimal digit. -/
def digitValue (digit : Char) : Nat :=
  digit.toNat - '0'.toNat

/-- The value of a row of decimal digits. -/
def digitsValue (digits : List Char) : Nat :=
  digits.foldl (fun value digit => value * 10 + digitValue digit) 0

/-- Put digits behind a value for as long as it fits 64 bits; with the value the number of digits
that were left out. -/
def takeFitting : List Char → Nat → Nat × Nat
  | [], value => (value, 0)
  | digit :: rest, value =>
      let next := value * 10 + digitValue digit
      if next < UInt64.size then takeFitting rest next else (value, rest.length + 1)

/-- The digits at the start of a text, and what follows them. -/
def takeDigits (text : List Char) : List Char × List Char :=
  (text.takeWhile Char.isDigit, text.dropWhile Char.isDigit)

/-- The double nearest to a power of ten. -/
def powerOfTen (exponent : Nat) : Float :=
  Float.ofScientific 1 false exponent

/-- A double times a power of ten.  The power and each product or quotient are rounded to doubles;
an exponent below the range of doubles is taken in two steps.  Beyond the largest double there is
no number. -/
def scaled? (value : Float) (exponent : Int) : Option Float :=
  if value == 0 then some value
  else if exponent < -616 then some 0
  else if exponent < -308 then
    some (value / powerOfTen 308 / powerOfTen (-exponent - 308).toNat)
  else if exponent < 0 then some (value / powerOfTen (-exponent).toNat)
  else if exponent ≤ 308 then
    let product := value * powerOfTen exponent.toNat
    if product.isInf then none else some product
  else none

/-- The double of a number with a fraction, an exponent or too many digits.  Digits count as far as
64 bits hold them: one that is left out before the point moves the point, one after it is lost. -/
def double? (negative : Bool) (whole fraction : List Char) (exponent : Int) : Option Json :=
  let (value, moved) := takeFitting whole 0
  let (value, lost) := takeFitting fraction value
  let places : Int := moved - (fraction.length - lost : Nat)
  (scaled? (Float.ofNat value) (places + exponent)).map fun magnitude =>
    .double (if negative then -magnitude else magnitude).toBits

/-- The exponent part of a number, zero if there is none, and what follows it. -/
def readExponent : List Char → Option (Option Int × List Char)
  | mark :: rest =>
      if mark = 'e' ∨ mark = 'E' then
        let (negative, rest) :=
          match rest with
          | '-' :: rest => (true, rest)
          | '+' :: rest => (false, rest)
          | rest => (false, rest)
        let (digits, rest) := takeDigits rest
        if digits.isEmpty then none
        else
          let size : Int := digitsValue digits
          some (some (if negative then -size else size), rest)
      else some (none, mark :: rest)
  | [] => some (none, [])

/-- The digits after a point, if there is one, and what follows them. -/
def readFraction : List Char → Option (List Char × List Char)
  | '.' :: rest =>
      let (digits, rest) := takeDigits rest
      if digits.isEmpty then none else some (digits, rest)
  | rest => some ([], rest)

/-- Whether digits start with a zero that means nothing. -/
def hasIdleZero : List Char → Bool
  | '0' :: _ :: _ => true
  | _ => false

/--
A number: exact if it is written as an integer that fits 64 bits, else a double.  A negative zero is
not an integer of the format and becomes a double.
-/
def readNumber (text : List Char) : Option (Json × List Char) := do
  let (negative, rest) :=
    match text with
    | '-' :: rest => (true, rest)
    | rest => (false, rest)
  let (whole, rest) := takeDigits rest
  if whole.isEmpty ∨ hasIdleZero whole then none
  else
    let (fraction, rest) ← readFraction rest
    let (exponent, rest) ← readExponent rest
    let size := digitsValue whole
    let value : Int := if negative then -(size : Int) else size
    if fraction.isEmpty ∧ exponent.isNone ∧ isExact value ∧ ¬(negative ∧ size = 0) then
      some (.int value, rest)
    else
      let number ← double? negative whole fraction (exponent.getD 0)
      some (number, rest)

mutual

/-- One value at the start of a text, and what follows it. -/
def readValue : Nat → List Char → Option (Json × List Char)
  | 0, _ => none
  | bound + 1, text =>
      match skipBlanks text with
      | 'n' :: 'u' :: 'l' :: 'l' :: rest => some (.null, rest)
      | 't' :: 'r' :: 'u' :: 'e' :: rest => some (.bool true, rest)
      | 'f' :: 'a' :: 'l' :: 's' :: 'e' :: rest => some (.bool false, rest)
      | '"' :: rest => do
          let (chars, rest) ← readQuoted (rest.length + 1) [] rest
          some (.str (String.ofList chars), rest)
      | '[' :: rest =>
          match skipBlanks rest with
          | ']' :: rest => some (.arr [], rest)
          | rest => do
              let (items, rest) ← readItems bound [] rest
              some (.arr items, rest)
      | '\x7b' :: rest =>
          match skipBlanks rest with
          | '\x7d' :: rest => some (.obj [], rest)
          | rest => do
              let (fields, rest) ← readFields bound [] rest
              some (object fields, rest)
      | rest => readNumber rest

/-- The values of a sequence up to its closing bracket; those read before come newest first. -/
def readItems : Nat → List Json → List Char → Option (List Json × List Char)
  | 0, _, _ => none
  | bound + 1, held, text => do
      let (item, rest) ← readValue bound text
      match skipBlanks rest with
      | ',' :: rest => readItems bound (item :: held) rest
      | ']' :: rest => some ((item :: held).reverse, rest)
      | _ => none

/-- The members of an object up to its closing brace; those read before come newest first. -/
def readFields : Nat → List (String × Json) → List Char →
    Option (List (String × Json) × List Char)
  | 0, _, _ => none
  | bound + 1, held, text =>
      match skipBlanks text with
      | '"' :: rest => do
          let (chars, rest) ← readQuoted (rest.length + 1) [] rest
          match skipBlanks rest with
          | ':' :: rest =>
              let (value, rest) ← readValue bound rest
              let held := (String.ofList chars, value) :: held
              match skipBlanks rest with
              | ',' :: rest => readFields bound held rest
              | '\x7d' :: rest => some (held.reverse, rest)
              | _ => none
          | _ => none
      | _ => none

end

/-- The value that a whole text stands for. -/
def parse (text : String) : Option Json := do
  let chars := text.toList
  let (value, rest) ← readValue (chars.length + 1) chars
  if (skipBlanks rest).isEmpty then some value else none

end Json
end BucketCatalog
