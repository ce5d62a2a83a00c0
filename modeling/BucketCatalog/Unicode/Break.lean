import BucketCatalog.Unicode.Property
import BucketCatalog.Unicode.Script

/-!
# Breaks

The classes by which text is cut into clusters, words and sentences.  Code points without a class
have no entry.
-/

namespace BucketCatalog
namespace Unicode
open Category

/-- The carriage return. -/
def carriageReturn : Ranges := .ofLines
  [ "d" ]

/-- The line feed. -/
def lineFeed : Ranges := .ofLines
  [ "a" ]

/-- The joiner. -/
def zeroWidthJoiner : Ranges := .ofLines
  [ "200d" ]

/-- The space of no width. -/
def zeroWidthSpace : Ranges := .ofLines
  [ "200b" ]

/-- The character that parts letters. -/
def zeroWidthNonJoiner : Ranges := .ofLines
  [ "200c" ]

/-! ## Clusters -/

/-- Code points that extend a cluster. -/
def clusterExtend : Ranges := graphemeExtend.union emojiModifier

/-- Letters before those that they belong to. -/
def clusterPrefix : Ranges := .ofLines
  [ "d4e 111c2-111c3 113d1 1193f 11941 11a3a 11a84-11a89 11d46 11f02" ]

/-- Code points that a cluster starts with. -/
def clusterPrepend : Ranges := clusterPrefix.union prependedConcatenationMark

/-- Spacing marks that do not belong to a cluster. -/
def looseMark : Ranges := .ofLines
  [ "102b-102c 1038 1062-1064 1067-106d 1083 1087-108c 108f 109a-109c 1a61 1a63-1a64 aa7b aa7d",
    "11720-11721" ]

/-- Vowels that are written after their consonant. -/
def vowelSign : Ranges := .ofLines
  [ "e33 eb3" ]

/-- Spacing marks inside a cluster. -/
def clusterSpacing : Ranges := (spacingMark.union vowelSign).minus (clusterExtend.union looseMark)

/-- Code points that are no part of a cluster. -/
def clusterControl : Ranges :=
  (Ranges.unions [lineSeparator, paragraphSeparator, control, format, defaultIgnorable.inter
    unassigned]).minus (.unions [carriageReturn, lineFeed, zeroWidthJoiner, zeroWidthNonJoiner,
    clusterPrepend, clusterExtend])

/-- Leading consonants of syllables. -/
def leadingJamo : Ranges := .ofLines
  [ "1100-115f a960-a97c" ]

/-- Vowels of syllables. -/
def vowelJamo : Ranges := .ofLines
  [ "1160-11a7 d7b0-d7c6 16d63 16d67-16d6a" ]

/-- Trailing consonants of syllables. -/
def trailingJamo : Ranges := .ofLines
  [ "11a8-11ff d7cb-d7fb" ]

/-- Syllables without a trailing consonant: every twenty-eighth. -/
def openSyllable : Ranges :=
  (List.range 399).map fun index => (0xAC00 + 28 * index, 0xAC00 + 28 * index)

/-- Syllables with a trailing consonant. -/
def closedSyllable : Ranges :=
  Ranges.minus [(0xAC00, 0xD7A3)] openSyllable

/-- The classes of clusters with their names. -/
def clusterClasses : List (List String × Ranges) :=
  [ (["cn", "control"], clusterControl),
    (["cr"], carriageReturn),
    (["ex", "extend"], clusterExtend),
    (["l"], leadingJamo),
    (["lf"], lineFeed),
    (["lv"], openSyllable),
    (["lvt"], closedSyllable),
    (["pp", "prepend"], clusterPrepend),
    (["ri", "regionalindicator"], regionalIndicator),
    (["sm", "spacingmark"], clusterSpacing),
    (["t"], trailingJamo),
    (["v"], vowelJamo),
    (["zwj"], zeroWidthJoiner) ]

/-! ## Words -/

/-- Code points that extend a part of a word. -/
def wordExtend : Ranges := clusterExtend.union spacingMark

/-- Format characters that do not break words. -/
def wordFormat : Ranges :=
  format.minus (.unions [zeroWidthSpace, zeroWidthJoiner, zeroWidthNonJoiner,
    prependedConcatenationMark, clusterExtend])

/-- Marks that are in use with Katakana. -/
def kanaMark : Ranges := .ofLines
  [ "3031-3035 309b-309c 30a0 30fc ff70" ]

/-- Katakana with its marks. -/
def wordKatakana : Ranges := Script.katakana.union kanaMark

/-- Hebrew letters. -/
def wordHebrew : Ranges := Script.hebrew.inter otherLetter

/-- The sign over an abbreviation. -/
def abbreviationMark : Ranges := .ofLines
  [ "70f" ]

/-- Letters of scripts that leave no blank between words. -/
def complexContext : Ranges := .ofLines
  [ "e01-e30 e32-e33 e40-e46 e81-e82 e84 e86-e8a e8c-ea3 ea5 ea7-eb0 eb2-eb3 ebd ec0-ec4 ec6",
    "edc-edf 1000-102a 103f 1050-1055 105a-105d 1061 1065-1066 106e-1070 1075-1081 108e 1780-17b3",
    "17d7 17dc 1950-196d 1970-1974 1980-19ab 19b0-19c9 1a20-1a54 1aa7 a9e0-a9e4 a9e6-a9ef",
    "a9fa-a9fe aa60-aa76 aa7a aa7e-aaaf aab1 aab5-aab6 aab9-aabd aac0 aac2 aadb-aadd 11700-1171a",
    "11740-11746" ]

/-- Signs that are written like letters. -/
def letterLike : Ranges := .ofLines
  [ "2c2-2c5 2d2-2d7 2de-2df 2e5-2eb 2ed 2ef-2ff 55a-55c 55e 58a 5f3 a708-a716 a720-a721",
    "a789-a78a ab5b" ]

/-- Letters of scripts that leave blanks between words. -/
def wordLetter : Ranges :=
  ((alphabetic.minus (.unions [ideographic, wordKatakana, Script.hiragana, wordExtend, wordHebrew,
    complexContext])).union letterLike).union abbreviationMark

/-- The separator of Arabic decimals. -/
def decimalSeparator : Ranges := .ofLines
  [ "66b" ]

/-- Digits and what is inside numbers. -/
def wordNumeric : Ranges :=
  (Ranges.unions [decimalNumber, decimalSeparator, prependedConcatenationMark]).minus
    abbreviationMark

/-- The narrow space inside words. -/
def narrowSpace : Ranges := .ofLines
  [ "202f" ]

/-- Connectors inside words. -/
def wordConnector : Ranges := connectorPunctuation.union narrowSpace

/-- Punctuation between letters. -/
def wordMidLetter : Ranges := .ofLines
  [ "3a b7 387 55f 5f4 2027 fe13 fe55 ff1a" ]

/-- Punctuation between digits. -/
def wordMidNumber : Ranges := .ofLines
  [ "2c 3b 37e 589 60c-60d 66c 7f8 2044 fe50 fe54 ff0c ff1b" ]

/-- Punctuation between letters or digits. -/
def wordMidBoth : Ranges := .ofLines
  [ "2e 2018-2019 2024 fe52 ff07 ff0e" ]

/-- Ends of lines. -/
def wordNewline : Ranges := .ofLines
  [ "b-c 85 2028-2029" ]

/-- The straight single quote. -/
def singleQuote : Ranges := .ofLines
  [ "27" ]

/-- The straight double quote. -/
def doubleQuote : Ranges := .ofLines
  [ "22" ]

/-- Spaces between words. -/
def wordSpace : Ranges := .ofLines
  [ "20 1680 2000-2006 2008-200a 205f 3000" ]

/-- The classes of words with their names. -/
def wordClasses : List (List String × Ranges) :=
  [ (["cr"], carriageReturn),
    (["dq", "doublequote"], doubleQuote),
    (["ex", "extendnumlet"], wordConnector),
    (["extend"], wordExtend),
    (["fo", "format"], wordFormat),
    (["hl", "hebrewletter"], wordHebrew),
    (["ka", "katakana"], wordKatakana),
    (["le", "aletter"], wordLetter),
    (["lf"], lineFeed),
    (["mb", "midnumlet"], wordMidBoth),
    (["ml", "midletter"], wordMidLetter),
    (["mn", "midnum"], wordMidNumber),
    (["nl", "newline"], wordNewline),
    (["nu", "numeric"], wordNumeric),
    (["ri", "regionalindicator"], regionalIndicator),
    (["sq", "singlequote"], singleQuote),
    (["wsegspace"], wordSpace),
    (["zwj"], zeroWidthJoiner) ]

/-! ## Sentences -/

/-- Code points that extend a part of a sentence. -/
def sentenceExtend : Ranges := .unions [graphemeExtend, spacingMark, zeroWidthJoiner]

/-- Marks that stand before the digits of a number. -/
def signedNumber : Ranges := prependedConcatenationMark.minus abbreviationMark

/-- Format characters that do not break sentences. -/
def sentenceFormat : Ranges :=
  format.minus (.unions [zeroWidthJoiner, zeroWidthNonJoiner, graphemeExtend, signedNumber])

/-- Letters that have a capital form and are not written with it. -/
def uncasedCapital : Ranges := .ofLines
  [ "10d0-10fa 10fd-10ff" ]

/-- Capital forms that do not begin a sentence. -/
def capitalForm : Ranges := .ofLines
  [ "1c90-1cba 1cbd-1cbf" ]

/-- Lowercase letters. -/
def sentenceLower : Ranges := lowercase.minus (graphemeExtend.union uncasedCapital)

/-- Uppercase letters. -/
def sentenceUpper : Ranges := (titlecaseLetter.union uppercase).minus capitalForm

/-- The geresh. -/
def geresh : Ranges := .ofLines
  [ "5f3" ]

/-- Other letters. -/
def sentenceLetter : Ranges :=
  (alphabetic.union geresh).minus (.unions [sentenceLower, sentenceUpper, sentenceExtend])

/-- The separators of Arabic numbers. -/
def numberSeparator : Ranges := .ofLines
  [ "66b-66c" ]

/-- Digits and what is inside numbers. -/
def sentenceNumeric : Ranges := .unions [decimalNumber, numberSeparator, signedNumber]

/-- Dots. -/
def sentenceDot : Ranges := .ofLines
  [ "2e 2024 fe52 ff0e" ]

/-- Ends of sentences other than dots. -/
def sentenceEnd : Ranges := sentenceTerminal.minus sentenceDot

/-- Punctuation inside sentences. -/
def sentenceContinue : Ranges := .ofLines
  [ "2c-2d 3a-3b 37e 55d 60c-60d 7f8 1802 1808 2013-2014 3001 fe10-fe11 fe13-fe14 fe31-fe32",
    "fe50-fe51 fe54-fe55 fe58 fe63 ff0c-ff0d ff1a-ff1b ff64" ]

/-- Ends of paragraphs. -/
def sentenceSeparator : Ranges := .ofLines
  [ "85 2028-2029" ]

/-- Spaces between sentences. -/
def sentenceSpace : Ranges :=
  whiteSpace.minus (.unions [sentenceSeparator, carriageReturn, lineFeed])

/-- Quotes and brackets that are no paired punctuation. -/
def plainQuote : Ranges := .ofLines
  [ "22 27 275b-2760 2e00-2e01 2e06-2e08 2e0b 1f676-1f678" ]

/-- Brackets and quotes. -/
def sentenceClose : Ranges :=
  .unions [openPunctuation, closePunctuation, initialPunctuation, finalPunctuation, plainQuote]

/-- The classes of sentences with their names. -/
def sentenceClasses : List (List String × Ranges) :=
  [ (["at", "aterm"], sentenceDot),
    (["cl", "close"], sentenceClose),
    (["cr"], carriageReturn),
    (["ex", "extend"], sentenceExtend),
    (["fo", "format"], sentenceFormat),
    (["le", "oletter"], sentenceLetter),
    (["lf"], lineFeed),
    (["lo", "lower"], sentenceLower),
    (["nu", "numeric"], sentenceNumeric),
    (["sc", "scontinue"], sentenceContinue),
    (["se", "sep"], sentenceSeparator),
    (["sp"], sentenceSpace),
    (["st", "sterm"], sentenceEnd),
    (["up", "upper"], sentenceUpper) ]

end Unicode
end BucketCatalog
