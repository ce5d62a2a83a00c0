import BucketCatalog.Text

/-!
# Stored paths

A bucket keeps its objects under paths of non-empty segments.  `StoredPath.ofKey` makes the path of
a key: empty segments disappear, and what may not stand in a segment is written by its UTF-8 bytes,
each as a percent sign and two hexadecimal digits.  The percent sign itself may not stand in a
segment, so the path of a path is in general another path.
-/

namespace BucketCatalog
namespace StoredPath

/-- The uppercase hexadecimal digit of a number below 16. -/
def hexDigit (value : Nat) : Char :=
  (Nat.digitChar value).toUpper

/-- A byte as a percent sign and two digits. -/
def percent (byte : UInt8) : List Char :=
  ['%', hexDigit (byte.toNat / 16), hexDigit (byte.toNat % 16)]

/-- The printable ASCII characters that may not stand in a segment. -/
def reserved : List Char :=
  ['/', '\\', '\x7b', '^', '\x7d', '%', '\x60', ']', '"', '>', '[', '~', '<', '#', '|', '*', '?']

/-- Whether a character may stand in a segment as it is. -/
def isPlain (char : Char) : Bool :=
  ' ' ≤ char && char ≤ '~' && !reserved.contains char

/-- A character of a segment. -/
def encodeChar (char : Char) : List Char :=
  if isPlain char then [char] else (String.utf8EncodeChar char).flatMap percent

/-- A segment.  The two segments that mean directories elsewhere are written out. -/
def encodeSegment (segment : List Char) : List Char :=
  if segment = ['.'] then percent 0x2E
  else if segment = ['.', '.'] then percent 0x2E ++ percent 0x2E
  else segment.flatMap encodeChar

/-- The path under which a key is stored. -/
def ofKey (key : String) : String :=
  let segments := (key.toList.splitOn '/').filter fun segment => !segment.isEmpty
  String.ofList (['/'].intercalate (segments.map encodeSegment))

/-- Whether a path lies strictly below a base path, by whole segments; all but the empty path lie
below the empty base. -/
def isBelow (base path : String) : Bool :=
  if base.isEmpty then !path.isEmpty
  else (Text.withoutLead? (base ++ "/") path).isSome

end StoredPath
end BucketCatalog
