import BucketCatalog.Regex.Pattern
import BucketCatalog.Unicode.Next

/-!
# Tokens of regular expressions

The parts that a regular expression is read in: single characters and classes, assertions,
operators and brackets.  What a part means depends on the flags in force where it stands, so each
token is read when the reader gets to it.  A function that reads a part answers the part and the
text after it, and nothing if the text is not well formed.
-/

namespace BucketCatalog
namespace Regex

/-- What may be switched on and off inside a pattern. -/
inductive Flag where
  /-- Letters match both cases. -/
  | ignoreCase
  /-- Line starts and ends match inside the text. -/
  | multiLine
  /-- A dot matches line ends too. -/
  | dotAll
  /-- Repetitions are lazy unless they are marked. -/
  | swapGreed
  /-- Classes are those of Unicode. -/
  | unicode
  /-- A carriage return is part of a line end. -/
  | carriageReturn
  /-- Blanks and comments in the pattern mean nothing. -/
  | extended
  deriving DecidableEq

/-- The flags in force. -/
structure Flags where
  /-- Letters match both cases. -/
  ignoreCase : Bool
  /-- Line starts and ends match inside the text. -/
  multiLine : Bool
  /-- A dot matches line ends too. -/
  dotAll : Bool
  /-- Repetitions are lazy unless they are marked. -/
  swapGreed : Bool
  /-- Classes are those of Unicode. -/
  unicode : Bool
  /-- A carriage return is part of a line end. -/
  carriageReturn : Bool
  /-- Blanks and comments in the pattern mean nothing. -/
  extended : Bool
  deriving DecidableEq

/-- The flags at the start of a pattern. -/
def Flags.start : Flags where
  ignoreCase := false
  multiLine := false
  dotAll := false
  swapGreed := false
  unicode := true
  carriageReturn := false
  extended := false

/-- Switch one flag. -/
def Flags.set (flags : Flags) (on : Bool) : Flag → Flags
  | .ignoreCase => { flags with ignoreCase := on }
  | .multiLine => { flags with multiLine := on }
  | .dotAll => { flags with dotAll := on }
  | .swapGreed => { flags with swapGreed := on }
  | .unicode => { flags with unicode := on }
  | .carriageReturn => { flags with carriageReturn := on }
  | .extended => { flags with extended := on }

/-- The flag of a letter. -/
def Flag.ofChar? : Char → Option Flag
  | 'i' => some .ignoreCase
  | 'm' => some .multiLine
  | 's' => some .dotAll
  | 'U' => some .swapGreed
  | 'u' => some .unicode
  | 'R' => some .carriageReturn
  | 'x' => some .extended
  | _ => none

/-- Flags to switch on or off, in the order in which they are written. -/
abbrev FlagChanges := List (Flag × Bool)

/-- Switch several flags. -/
def Flags.apply (flags : Flags) (changes : FlagChanges) : Flags :=
  changes.foldl (fun flags change => flags.set change.2 change.1) flags

/-- A part of a regular expression. -/
inductive Token where
  /-- A character of a set, with the depth of its brackets. -/
  | one (set : CharSet) (depth : Nat)
  /-- An assertion. -/
  | check (assertion : Assertion)
  /-- The mark between two alternatives. -/
  | bar
  /-- The start of a group whose text is kept, with the group's name if it has one. -/
  | capture (name : Option String)
  /-- The start of a group whose text is not kept, with flags for its inside. -/
  | group (changes : FlagChanges)
  /-- The end of a group. -/
  | close
  /-- Flags for the rest of the group. -/
  | flags (changes : FlagChanges)
  /-- A repetition of what is before it. -/
  | repeated (least : Nat) (most : Option Nat) (greedy : Bool)

/-- The text without blanks and comments at its start; a comment ends with its line. -/
def skipComments : Bool → List Char → List Char
  | _, [] => []
  | true, char :: rest => skipComments (char != '\n') rest
  | false, char :: rest =>
      if Unicode.isBlank char then skipComments false rest
      else if char = '#' then skipComments true rest
      else char :: rest

/-- The text from the next character that means something. -/
def Flags.skip (flags : Flags) (text : List Char) : List Char :=
  if flags.extended then skipComments false text else text

/-- Sets that are compared without case, as the flags say. -/
def Flags.fold (flags : Flags) (set : CharSet) : CharSet :=
  if flags.ignoreCase then if flags.unicode then Unicode.Ranges.folded set else set.asciiFolded
  else set

/-- A set or its complement.  Without Unicode a complement would match single bytes, and there is
none. -/
def Flags.negateIf? (flags : Flags) (negated : Bool) (set : CharSet) : Option CharSet :=
  if negated then if flags.unicode then some (Unicode.Ranges.compl set) else none else some set

/-! ## Escapes -/

/-- What a backslash and the text after it stand for. -/
inductive Escape where
  /-- A character; `byte` tells that it was written by two hexadecimal digits. -/
  | char (char : Char) (byte : Bool)
  /-- A class of characters. -/
  | class (set : CharSet)
  /-- An assertion. -/
  | check (assertion : Assertion)

/-- The value of a hexadecimal digit of either case. -/
def hexDigit? (char : Char) : Option Nat :=
  if '0' ≤ char ∧ char ≤ '9' then some (char.toNat - 0x30)
  else if 'a' ≤ char ∧ char ≤ 'f' then some (char.toNat - 0x61 + 10)
  else if 'A' ≤ char ∧ char ≤ 'F' then some (char.toNat - 0x41 + 10)
  else none

/-- The character of a code point, if it has one. -/
def scalar? (code : Nat) : Option Char :=
  if code < 0xD800 ∨ (0xE000 ≤ code ∧ code < 0x110000) then some (Char.ofNat code) else none

/-- A fixed number of hexadecimal digits after the first character of the text is reached. -/
def readHexDigits (flags : Flags) : Nat → Nat → List Char → Option (Nat × List Char)
  | 0, value, text => some (value, text)
  | count + 1, value, text =>
      match flags.skip text with
      | [] => none
      | char :: rest => do
          let digit ← hexDigit? char
          readHexDigits flags count (value * 16 + digit) rest

/-- Hexadecimal digits up to a closing brace, at least one. -/
def readHexBraced (flags : Flags) : Nat → Option Nat → List Char → Option (Nat × List Char)
  | 0, _, _ => none
  | bound + 1, value, text =>
      match flags.skip text with
      | [] => none
      | '\x7d' :: rest => value.map fun value => (value, rest)
      | char :: rest => do
          let digit ← hexDigit? char
          readHexBraced flags bound (some (value.getD 0 * 16 + digit)) rest

/-- A character by its code point: `digits` hexadecimal digits, or any number of them in braces. -/
def readHex (flags : Flags) (digits : Nat) (byte : Bool) (text : List Char) :
    Option (Escape × List Char) :=
  match flags.skip text with
  | '\x7b' :: rest => do
      let (code, rest) ← readHexBraced flags (rest.length + 1) none rest
      let char ← scalar? code
      some (.char char false, flags.skip rest)
  | text => do
      let (code, rest) ← readHexDigits flags digits 0 text
      let char ← scalar? code
      some (.char char byte, flags.skip rest)

/-- The text up to a closing brace. -/
def readBraced (flags : Flags) : Nat → List Char → List Char → Option (List Char × List Char)
  | 0, _, _ => none
  | bound + 1, held, text =>
      match flags.skip text with
      | [] => none
      | '\x7d' :: rest => some (held.reverse, rest)
      | char :: rest => readBraced flags bound (char :: held) rest

/-- The set of a property in braces, and whether its name asks for the complement. -/
def propertyOfText? (text : List Char) : Option (CharSet × Bool) :=
  match Text.splitFirst ['!', '='] text with
  | some (property, value) => (CharSet.propertyValue? property value).map fun set => (set, true)
  | none =>
      match Text.splitFirst [':'] text with
      | some (property, value) =>
          (CharSet.propertyValue? property value).map fun set => (set, false)
      | none =>
          match Text.splitFirst ['='] text with
          | some (property, value) =>
              (CharSet.propertyValue? property value).map fun set => (set, false)
          | none => (CharSet.property? text).map fun set => (set, false)

/-- A class of characters with a Unicode property. -/
def readProperty (flags : Flags) (negated : Bool) (text : List Char) :
    Option (Escape × List Char) := do
  let ((set, opposite), rest) ←
    match flags.skip text with
    | [] => none
    | '\x7b' :: rest => do
        let (name, rest) ← readBraced flags (rest.length + 1) [] rest
        let found ← propertyOfText? name
        some (found, rest)
    | char :: rest => do
        let set ← CharSet.property? [char]
        some ((set, false), flags.skip rest)
  if flags.unicode then
    let set ← flags.negateIf? (negated != opposite) (flags.fold set)
    some (.class set, rest)
  else none

/-- The class of digits, blanks or word characters. -/
def shorthandClass? (flags : Flags) (letter : Char) : Option CharSet :=
  match letter.toLower with
  | 'd' =>
      flags.negateIf? letter.isUpper <|
        if flags.unicode then Unicode.Category.decimalNumber else CharSet.asciiDigit
  | 's' =>
      flags.negateIf? letter.isUpper <|
        if flags.unicode then Unicode.whiteSpace else CharSet.asciiSpace
  | 'w' =>
      flags.negateIf? letter.isUpper <|
        if flags.unicode then Unicode.word else CharSet.asciiWord
  | _ => none

/-- The characters that an edge in braces is named with, up to the closing brace. -/
def readEdgeName (flags : Flags) : Nat → List Char → List Char → Option (String × List Char)
  | 0, _, _ => none
  | bound + 1, held, text =>
      match text with
      | '\x7d' :: rest => some (String.ofList held.reverse, rest)
      | char :: rest =>
          if char.isAlpha || char = '-' then
            readEdgeName flags bound (char :: held) (flags.skip rest)
          else none
      | [] => none

/-- The edge of a word, which may be named in braces; braces with anything else belong to a
repetition. -/
def readWordEdge (flags : Flags) (text : List Char) : Option (Assertion × List Char) :=
  let ascii := !flags.unicode
  match text with
  | '\x7b' :: rest =>
      match flags.skip rest with
      | [] => none
      | char :: inside =>
          if char.isAlpha || char = '-' then do
            let (name, rest) ← readEdgeName flags (inside.length + 2) [] (char :: inside)
            match name with
            | "start" => some (.wordStart ascii, rest)
            | "end" => some (.wordEnd ascii, rest)
            | "start-half" => some (.wordStartHalf ascii, rest)
            | "end-half" => some (.wordEndHalf ascii, rest)
            | _ => none
          else some (.wordEdge ascii, text)
  | text => some (.wordEdge ascii, text)

/-- Whether a character may stand after a backslash for itself. -/
def isEscapable (char : Char) : Bool :=
  char.toNat < 128 && !char.isAlphanum && char != '<' && char != '>'

/-- What the text after a backslash stands for. -/
def readEscape (flags : Flags) : List Char → Option (Escape × List Char)
  | [] => none
  | letter :: rest =>
      let ascii := !flags.unicode
      match letter with
      | 'x' => readHex flags 2 true rest
      | 'u' => readHex flags 4 false rest
      | 'U' => readHex flags 8 false rest
      | 'p' => readProperty flags false rest
      | 'P' => readProperty flags true rest
      | 'd' | 'D' | 's' | 'S' | 'w' | 'W' =>
          (shorthandClass? flags letter).map fun set => (.class set, rest)
      | 'a' => some (.char '\x07' false, rest)
      | 'f' => some (.char '\x0c' false, rest)
      | 't' => some (.char '\t' false, rest)
      | 'n' => some (.char '\n' false, rest)
      | 'r' => some (.char '\r' false, rest)
      | 'v' => some (.char '\x0b' false, rest)
      | 'A' => some (.check .textStart, rest)
      | 'z' => some (.check .textEnd, rest)
      | 'b' => (readWordEdge flags rest).map fun found => (.check found.1, found.2)
      | 'B' => some (.check (.noWordEdge ascii), rest)
      | '<' => some (.check (.wordStart ascii), rest)
      | '>' => some (.check (.wordEnd ascii), rest)
      | _ => if isEscapable letter then some (.char letter false, rest) else none

/-- Whether a character may be written in a pattern, as it is or by two digits: without Unicode two
digits mean a byte, and a byte beyond ASCII is no character. -/
def Flags.allows (flags : Flags) (char : Char) (byte : Bool) : Bool :=
  flags.unicode || !byte || char.toNat < 128

/-! ## Sets in brackets -/

/-- The operators between the parts of a set. -/
inductive SetOperator where
  /-- What is in both parts. -/
  | inter
  /-- What is in the first part only. -/
  | minus
  /-- What is in exactly one part. -/
  | either

/-- Combine two sets. -/
def SetOperator.apply : SetOperator → CharSet → CharSet → CharSet
  | .inter => Unicode.Ranges.inter
  | .minus => Unicode.Ranges.minus
  | .either => Unicode.Ranges.either

/-- A set whose closing bracket is still to come. -/
structure OpenSet where
  /-- Whether the complement is meant. -/
  negated : Bool
  /-- The part before the last operator with its depth, and that operator. -/
  left : Option (CharSet × Nat × SetOperator)
  /-- The members since the last operator. -/
  union : CharSet
  /-- How many members there are since the last operator. -/
  members : Nat
  /-- The depth of the deepest of these members. -/
  depth : Nat

/-- An open set without members. -/
def OpenSet.start (negated : Bool) : OpenSet where
  negated := negated
  left := none
  union := []
  members := 0
  depth := 0

/-- Put a member of a depth into an open set. -/
def OpenSet.add (level : OpenSet) (set : CharSet) (depth : Nat) : OpenSet :=
  { level with
    union := level.union.union set
    members := level.members + 1
    depth := max level.depth depth }

/-- The parts of an open set combined from the left, with the depth of the structure: several
members lie one deeper than the deepest of them, and so do the two parts of an operator. -/
def OpenSet.combined (flags : Flags) (level : OpenSet) : CharSet × Nat :=
  let depth := if level.members < 2 then level.depth else level.depth + 1
  match level.left with
  | none => (level.union, depth)
  | some (left, leftDepth, operator) =>
      (operator.apply (flags.fold left) (flags.fold level.union), max leftDepth depth + 1)

/-- Start a new part of an open set after an operator. -/
def OpenSet.split (flags : Flags) (level : OpenSet) (operator : SetOperator) : OpenSet :=
  let (left, depth) := level.combined flags
  { OpenSet.start level.negated with left := some (left, depth, operator) }

/-- The set when its closing bracket has come, with its depth. -/
def OpenSet.close? (flags : Flags) (level : OpenSet) : Option (CharSet × Nat) :=
  let (set, depth) := level.combined flags
  (flags.negateIf? level.negated (flags.fold set)).map fun set => (set, depth + 1)

/-- Dashes at the start of a set, each of which means itself. -/
def readDashes (flags : Flags) : Nat → OpenSet → List Char → OpenSet × List Char
  | 0, level, text => (level, text)
  | bound + 1, level, '-' :: rest =>
      readDashes flags bound (level.add (CharSet.single '-') 0) (flags.skip rest)
  | _ + 1, level, text => (level, text)

/-- The start of a set after its opening bracket.  A closing bracket in first place means itself. -/
def readSetStart (flags : Flags) (text : List Char) : Option (OpenSet × List Char) :=
  let (negated, text) :=
    match flags.skip text with
    | '^' :: rest => (true, flags.skip rest)
    | text => (false, text)
  let level := OpenSet.start negated
  match text with
  | [] => none
  | ']' :: rest =>
      let rest := flags.skip rest
      if rest.isEmpty then none else some (level.add (CharSet.single ']') 0, rest)
  | text =>
      let (level, rest) := readDashes flags text.length level text
      if rest.isEmpty then none else some (level, rest)

/-- A named ASCII class after its opening bracket, if there is one. -/
def readNamedClass (flags : Flags) : List Char → Option (Option CharSet × List Char)
  | ':' :: rest =>
      let (negated, rest) :=
        match rest with
        | '^' :: rest => (true, rest)
        | rest => (false, rest)
      match Text.splitFirst [':'] rest with
      | some (name, ']' :: rest) =>
          (CharSet.namedAscii? (String.ofList name)).map fun set =>
            (flags.negateIf? negated (flags.fold set), rest)
      | _ => none
  | _ => none

/-- A single member of a set: a character, a class or an assertion. -/
def readSetMember (flags : Flags) : List Char → Option (Escape × List Char)
  | [] => none
  | '\\' :: rest => readEscape flags rest
  | char :: rest => some (.char char false, rest)

/-- A character that may stand in a set. -/
def Flags.setChar? (flags : Flags) (char : Char) (byte : Bool) : Option Char :=
  if flags.allows char byte && (flags.unicode || char.toNat < 128) then some char else none

/-- The character that decides whether a dash before it stands for itself.  Blanks before it mean
nothing, and of a comment only its mark, so that the text of a comment may decide. -/
def Flags.peek (flags : Flags) (text : List Char) : Option Char :=
  if flags.extended then
    match text.dropWhile Unicode.isBlank with
    | '#' :: comment => (comment.dropWhile Unicode.isBlank).head?
    | rest => rest.head?
  else text.head?

/-- A member of a set or a range of characters. -/
def readSetItem (flags : Flags) (text : List Char) : Option (CharSet × List Char) := do
  let (first, rest) ← readSetMember flags text
  let rest := flags.skip rest
  let single : Option (CharSet × List Char) :=
    match first with
    | .char char byte => (flags.setChar? char byte).map fun char => (CharSet.single char, rest)
    | .class set => some (set, rest)
    | .check _ => none
  match rest with
  | [] => none
  | '-' :: after =>
      if flags.peek after = some ']' ∨ flags.peek after = some '-' then single
      else do
        let (last, rest) ← readSetMember flags (flags.skip after)
        match first, last with
        | .char low lowByte, .char high highByte => do
            let low ← flags.setChar? low lowByte
            let high ← flags.setChar? high highByte
            if low.toNat ≤ high.toNat then some (.between low high, rest) else none
        | _, _ => none
  | _ => single

/-- The rest of nested sets, the innermost first, up to the last closing bracket; with the set the
depth of its brackets. -/
def readSet (flags : Flags) :
    Nat → OpenSet → List OpenSet → List Char → Option (CharSet × Nat × List Char)
  | 0, _, _, _ => none
  | bound + 1, level, outer, text =>
      match flags.skip text with
      | [] => none
      | '[' :: rest =>
          match readNamedClass flags rest with
          | some (set, rest) => do
              let set ← set
              readSet flags bound (level.add set 0) outer rest
          | none => do
              let (inner, rest) ← readSetStart flags rest
              readSet flags bound inner (level :: outer) rest
      | ']' :: rest => do
          let (set, depth) ← level.close? flags
          match outer with
          | [] => some (set, depth, rest)
          | around :: outer => readSet flags bound (around.add set depth) outer rest
      | '&' :: '&' :: rest => readSet flags bound (level.split flags .inter) outer rest
      | '-' :: '-' :: rest => readSet flags bound (level.split flags .minus) outer rest
      | '~' :: '~' :: rest => readSet flags bound (level.split flags .either) outer rest
      | text => do
          let (set, rest) ← readSetItem flags text
          readSet flags bound (level.add set 0) outer rest

/-! ## Groups and repetitions -/

/-- Flags up to the mark that ends them, each at most once and at most one dash, which does not
stand last; and whether that mark opens a group. -/
def readFlags : FlagChanges → Option Bool → Bool → List Char →
    Option (FlagChanges × Bool × List Char)
  | _, _, _, [] => none
  | changes, dash, _, ':' :: rest =>
      if dash = some true then none else some (changes.reverse, true, rest)
  | changes, dash, _, ')' :: rest =>
      if dash = some true then none else some (changes.reverse, false, rest)
  | changes, dash, on, '-' :: rest =>
      if dash.isSome then none else readFlags changes (some true) (!on) rest
  | changes, dash, on, letter :: rest => do
      let flag ← Flag.ofChar? letter
      if changes.any fun change => change.1 = flag then none
      else readFlags ((flag, on) :: changes) (dash.map fun _ => false) on rest

/-- Whether a character may stand in the name of a group. -/
def isNameChar (first : Bool) (char : Char) : Bool :=
  char = '_' || Unicode.anyAlphabetic.contains char.toNat
    || (!first && (char = '.' || char = '[' || char = ']'
      || Unicode.anyNumber.contains char.toNat))

/-- The name of a group up to its closing angle bracket. -/
def readGroupName : List Char → List Char → Option (String × List Char)
  | _, [] => none
  | held, '>' :: rest => if held.isEmpty then none else some (String.ofList held.reverse, rest)
  | held, char :: rest =>
      if isNameChar held.isEmpty char then readGroupName (char :: held) rest else none

/-- The start of a group after its opening parenthesis, or flags in parentheses. -/
def readGroup (flags : Flags) (text : List Char) : Option (Token × List Char) :=
  match flags.skip text with
  | '?' :: '=' :: _ => none
  | '?' :: '!' :: _ => none
  | '?' :: '<' :: '=' :: _ => none
  | '?' :: '<' :: '!' :: _ => none
  | '?' :: 'P' :: '<' :: rest =>
      (readGroupName [] rest).map fun found => (.capture (some found.1), found.2)
  | '?' :: '<' :: rest =>
      (readGroupName [] rest).map fun found => (.capture (some found.1), found.2)
  | '?' :: rest => do
      let (changes, opens, rest) ← readFlags [] none true rest
      if opens then some (.group changes, rest)
      else if changes.isEmpty then none
      else some (.flags changes, rest)
  | text => some (.capture none, text)

/-- A count with blanks around it, of at least one digit and below `2 ^ 32`. -/
def readCountDigits (flags : Flags) : Nat → Option Nat → List Char → Option (Nat × List Char)
  | 0, _, _ => none
  | bound + 1, value, text =>
      match text with
      | char :: rest =>
          if char.isDigit then
            readCountDigits flags bound (some (value.getD 0 * 10 + (char.toNat - 0x30)))
              (flags.skip rest)
          else value.map fun value => (value, char :: rest)
      | [] => none

/-- Text without the blanks at its start. -/
def dropBlanks (flags : Flags) (text : List Char) : List Char :=
  flags.skip (text.dropWhile Unicode.isBlank)

/-- A count of a repetition. -/
def readCount (flags : Flags) (text : List Char) : Option (Nat × List Char) := do
  let text := text.dropWhile Unicode.isBlank
  let (value, rest) ← readCountDigits flags (text.length + 1) none text
  if value < UInt32.size then some (value, dropBlanks flags rest) else none

/-- The mark that turns the greed of a repetition, if it is there. -/
def readLazyMark (flags : Flags) : List Char → Bool × List Char
  | '?' :: rest => (flags.swapGreed, rest)
  | text => (!flags.swapGreed, text)

/-- The end of a repetition in braces. -/
def readBraceEnd (flags : Flags) (least : Nat) (most : Option Nat) :
    List Char → Option (Token × List Char)
  | '\x7d' :: rest =>
      let (greedy, rest) := readLazyMark flags (flags.skip rest)
      if most.any fun most => most < least then none
      else some (.repeated least most greedy, rest)
  | _ => none

/-- A repetition after its opening brace. -/
def readBraces (flags : Flags) (text : List Char) : Option (Token × List Char) := do
  let (least, rest) ← readCount flags (flags.skip text)
  match rest with
  | ',' :: rest =>
      match flags.skip rest with
      | '\x7d' :: rest => readBraceEnd flags least none ('\x7d' :: rest)
      | rest => do
          let (most, rest) ← readCount flags rest
          readBraceEnd flags least (some most) rest
  | rest => readBraceEnd flags least (some least) rest

/-- The set of a dot.  Without Unicode it would match single bytes, and there is none. -/
def Flags.dot? (flags : Flags) : Option CharSet :=
  if !flags.unicode then none
  else if flags.dotAll then some CharSet.all
  else if flags.carriageReturn then some (Unicode.Ranges.compl [(0x0A, 0x0A), (0x0D, 0x0D)])
  else some (Unicode.Ranges.compl [(0x0A, 0x0A)])

/-- The assertion of a circumflex. -/
def Flags.circumflex (flags : Flags) : Assertion :=
  if flags.multiLine then if flags.carriageReturn then .lineStartCR else .lineStart
  else .textStart

/-- The assertion of a dollar sign. -/
def Flags.dollar (flags : Flags) : Assertion :=
  if flags.multiLine then if flags.carriageReturn then .lineEndCR else .lineEnd else .textEnd

/-- A character that stands for itself. -/
def Flags.literal (flags : Flags) (char : Char) : Token :=
  let set := CharSet.single char
  .one (if flags.unicode || char.toNat < 128 then flags.fold set else set) 0

/-- The token at the start of a text that has no blanks to skip. -/
def readToken (flags : Flags) : List Char → Option (Token × List Char)
  | [] => none
  | '(' :: rest => readGroup flags rest
  | ')' :: rest => some (.close, rest)
  | '|' :: rest => some (.bar, rest)
  | '[' :: rest => do
      let (level, rest) ← readSetStart flags rest
      let (set, depth, rest) ← readSet flags (rest.length + 1) level [] rest
      some (.one set depth, rest)
  | '?' :: rest =>
      let (greedy, rest) := readLazyMark flags rest
      some (.repeated 0 (some 1) greedy, rest)
  | '*' :: rest =>
      let (greedy, rest) := readLazyMark flags rest
      some (.repeated 0 none greedy, rest)
  | '+' :: rest =>
      let (greedy, rest) := readLazyMark flags rest
      some (.repeated 1 none greedy, rest)
  | '\x7b' :: rest => readBraces flags rest
  | '\\' :: rest => do
      let (escape, rest) ← readEscape flags rest
      match escape with
      | .char char byte => if flags.allows char byte then some (flags.literal char, rest) else none
      | .class set => some (.one set 0, rest)
      | .check assertion => some (.check assertion, rest)
  | '.' :: rest => flags.dot?.map fun set => (.one set 0, rest)
  | '^' :: rest => some (.check flags.circumflex, rest)
  | '$' :: rest => some (.check flags.dollar, rest)
  | char :: rest => some (flags.literal char, rest)

end Regex
end BucketCatalog
