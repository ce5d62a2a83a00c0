import BucketCatalog.Unicode.Age
import BucketCatalog.Unicode.Break
import BucketCatalog.Unicode.Fold
import BucketCatalog.Unicode.Word

/-!
# Sets of characters

What a single place of a pattern may match: a set of code points, by its ranges.  Sets are named as
regular expressions name them, between colons for the classes of ASCII and by the properties of the
standard for all others.
-/

namespace BucketCatalog
namespace Regex

/-- A set of characters, by its code points. -/
abbrev CharSet := Unicode.Ranges

namespace CharSet

/-- The set of one character. -/
def single (char : Char) : CharSet :=
  [(char.toNat, char.toNat)]

/-- The set of the characters between two, both included. -/
def between (first last : Char) : CharSet :=
  [(first.toNat, last.toNat)]

/-- The set of all characters. -/
def all : CharSet :=
  [(0, Unicode.lastCode)]

/-- The only character of a set. -/
def char? (set : CharSet) : Option Char :=
  match set with
  | [(first, last)] => if first = last then some (Char.ofNat first) else none
  | _ => none

/-- The digits 0 to 9. -/
def asciiDigit : CharSet :=
  between '0' '9'

/-- The uppercase letters of ASCII. -/
def asciiUpper : CharSet :=
  between 'A' 'Z'

/-- The lowercase letters of ASCII. -/
def asciiLower : CharSet :=
  between 'a' 'z'

/-- The letters of ASCII. -/
def asciiLetter : CharSet :=
  asciiUpper.union asciiLower

/-- Letters, digits and the low line. -/
def asciiWord : CharSet :=
  .unions [asciiLetter, asciiDigit, single '_']

/-- The blanks of ASCII, with the vertical tab. -/
def asciiSpace : CharSet :=
  .union (between '\t' '\r') (single ' ')

/-- A set with the other case of its ASCII letters. -/
def asciiFolded (set : CharSet) : CharSet :=
  let lowered := (set.inter asciiUpper).map fun range => (range.1 + 0x20, range.2 + 0x20)
  let raised := (set.inter asciiLower).map fun range => (range.1 - 0x20, range.2 - 0x20)
  .unions [set, lowered, raised]

/-- The classes that a set names between colons. -/
def namedAscii? : String → Option CharSet
  | "alnum" => some (asciiLetter.union asciiDigit)
  | "alpha" => some asciiLetter
  | "ascii" => some [(0x00, 0x7F)]
  | "blank" => some (.union (single '\t') (single ' '))
  | "cntrl" => some [(0x00, 0x1F), (0x7F, 0x7F)]
  | "digit" => some asciiDigit
  | "graph" => some (between '!' '~')
  | "lower" => some asciiLower
  | "print" => some (between ' ' '~')
  | "punct" =>
      some
        (.unions [between '!' '/', between ':' '@', between '[' '\x60', between '\x7b' '~'])
  | "space" => some asciiSpace
  | "upper" => some asciiUpper
  | "word" => some asciiWord
  | "xdigit" => some (.unions [asciiDigit, between 'A' 'F', between 'a' 'f'])
  | _ => none

/-- A property name in the form in which names are compared: lowercase ASCII without separators and
without a leading `is`. -/
def normalName (name : List Char) : String :=
  let start := (name.take 2).map Char.toLower
  let rest := if start = ['i', 's'] then name.drop 2 else name
  let kept := rest.filter fun char =>
    char != ' ' && char != '_' && char != '-' && char.toNat < 128
  let text := String.ofList (kept.map Char.toLower)
  if start = ['i', 's'] ∧ text = "c" then "isc" else text

/-- The first set whose names include a name. -/
def lookup (name : String) (named : List (List String × CharSet)) : Option CharSet :=
  (named.find? fun entry => entry.1.contains name).map Prod.snd

/-- The code points of a general category. -/
def category? (name : String) : Option CharSet :=
  match name with
  | "any" => some all
  | "ascii" => some [(0x00, 0x7F)]
  | "assigned" => some Unicode.Category.unassigned.compl
  | _ => lookup name Unicode.Category.named

/-- The code points of a script. -/
def script? (name : String) : Option CharSet :=
  lookup name Unicode.Script.named

/-- The code points that are in use with a script. -/
def scriptExtension? (name : String) : Option CharSet := do
  let (names, own) ← Unicode.Script.named.find? fun entry => entry.1.contains name
  let short ← names.head?
  some (Unicode.Script.extended short own)

/-- The code points that a property name stands for: a property, a category or a script. -/
def property? (name : List Char) : Option CharSet :=
  let text := normalName name
  lookup text Unicode.properties <|> category? text <|> script? text

/-- The code points for which a property has a value. -/
def propertyValue? (property value : List Char) : Option CharSet :=
  let value := normalName value
  match normalName property with
  | "gc" | "generalcategory" => category? value
  | "sc" | "script" => script? value
  | "scx" | "scriptextensions" => scriptExtension? value
  | "age" => Unicode.age? value
  | "gcb" | "graphemeclusterbreak" => lookup value Unicode.clusterClasses
  | "wb" | "wordbreak" => lookup value Unicode.wordClasses
  | "sb" | "sentencebreak" => lookup value Unicode.sentenceClasses
  | _ => none

end CharSet
end Regex
end BucketCatalog
