import BucketCatalog.Unicode.Property

/-!
# Words and blanks

Word characters are alphabetic code points, marks, decimal digits, connectors and joiners; blanks
are the white space of the standard.
-/

namespace BucketCatalog
namespace Unicode
open Category

/-- Word characters. -/
def word : Ranges := .unions [alphabetic, mark, decimalNumber, connectorPunctuation, joinControl]

/-- Whether a character is white space. -/
def isBlank (char : Char) : Bool :=
  whiteSpace.contains char.toNat

/-- Whether a character is part of a word. -/
def isWord (char : Char) : Bool :=
  word.contains char.toNat

end Unicode
end BucketCatalog
