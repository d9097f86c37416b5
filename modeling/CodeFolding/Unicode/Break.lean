import CodeFolding.Unicode.Property
import CodeFolding.Unicode.Script
/-!
# Breaks

Where a text may be cut between characters as a reader sees them, between words and between
sentences depends on classes of characters, one kind of class for each kind of break.
-/
namespace CodeFolding

/-- The carriage return, the line feed, and the two joiners. -/
def carriageReturn : CharSet := .single '\r'

@[inherit_doc carriageReturn] def lineFeed : CharSet := .single '\n'

@[inherit_doc carriageReturn] def zeroWidthJoiner : CharSet := .range 0x200D 0x200D

@[inherit_doc carriageReturn] def zeroWidthNonJoiner : CharSet := .range 0x200C 0x200C

/-! ## Characters as a reader sees them -/

namespace GraphemeBreak

/-- Syllables of Hangul without a last consonant. -/
def openSyllable : CharSet := .ofRanges ((List.range' 0xAC00 399 28).map fun n => (n, n))

def syllable : CharSet := .range 0xAC00 0xD7A3

/-- Marks and signs that stay with the character in front of them. -/
def extend : CharSet := Property.graphemeExtend ∪ Property.emojiModifier

/-- Characters around which there is always a break. -/
def control : CharSet :=
  (Category.lineSeparator ∪ Category.paragraphSeparator ∪ Category.control ∪ Category.format ∪
      (Category.unassigned ∩ Property.defaultIgnorableCodePoint)) \
    (carriageReturn ∪ lineFeed ∪ zeroWidthJoiner ∪ zeroWidthNonJoiner ∪
      Property.prependedConcatenationMark ∪ Property.graphemeExtend)

/-- Marks that take room and do not stay with the character in front of them. -/
def separateMark : CharSet := .ofTable
  ["102B-102C 1038 1062-1064 1067-106D 1083 1087-108C 108F 109A-109C 1A61 1A63-1A64 AA7B AA7D",
   "11720-11721"]

/-- Marks that take room and stay with the character in front of them. -/
def spacingMark : CharSet :=
  (Category.spacingMark \ (extend ∪ separateMark)) ∪ .ofTable ["E33 EB3"]

/-- Signs that stay with the character behind them. -/
def prepend : CharSet := .ofTable
  ["600-605 6DD 70F 890-891 8E2 D4E 110BD 110CD 111C2-111C3 113D1 1193F 11941 11A3A 11A84-11A89",
   "11D46 11F02"]

def all : List NamedSet :=
  [⟨["cr"], carriageReturn⟩,
    ⟨["cn", "control"], control⟩,
    ⟨["ex", "extend"], extend⟩,
    ⟨["l"], .ofTable ["1100-115F A960-A97C"]⟩,
    ⟨["lf"], lineFeed⟩,
    ⟨["lv"], openSyllable⟩,
    ⟨["lvt"], syllable \ openSyllable⟩,
    ⟨["pp", "prepend"], prepend⟩,
    ⟨["ri", "regionalindicator"], Property.regionalIndicator⟩,
    ⟨["sm", "spacingmark"], spacingMark⟩,
    ⟨["t"], .ofTable ["11A8-11FF D7CB-D7FB"]⟩,
    ⟨["v"], .ofTable ["1160-11A7 D7B0-D7C6 16D63 16D67-16D6A"]⟩,
    ⟨["zwj"], zeroWidthJoiner⟩]

end GraphemeBreak

/-! ## Words -/

namespace WordBreak

/-- Signs of numbers that are no digits. -/
def numericSign : CharSet := .ofTable ["600-605 66B 6DD 890-891 8E2 19DA 110BD 110CD"]

/-- Digits, and signs that go with them. -/
def numeric : CharSet := Category.decimalNumber ∪ numericSign

/-- Characters that do not count where they are. -/
def format : CharSet :=
  Category.format \ (.range 0x200B 0x200D ∪ Property.prependedConcatenationMark ∪
    Property.graphemeExtend)

/-- Marks that belong to the character in front of them. -/
def extend : CharSet :=
  (Property.graphemeExtend ∪ Category.spacingMark ∪ Property.emojiModifier) \ zeroWidthJoiner

/-- Connectors inside words. -/
def extendNumLet : CharSet := .ofTable ["5F 202F 203F-2040 2054 FE33-FE34 FE4D-FE4F FF3F"]

def hebrewLetter : CharSet := .ofTable
  ["5D0-5EA 5EF-5F2 FB1D FB1F-FB28 FB2A-FB36 FB38-FB3C FB3E FB40-FB41 FB43-FB44 FB46-FB4F"]

def katakana : CharSet := .ofTable
  ["3031-3035 309B-309C 30A0-30FA 30FC-30FF 31F0-31FF 32D0-32FE 3300-3357 FF66-FF9D 1AFF0-1AFF3",
   "1AFF5-1AFFB 1AFFD-1AFFE 1B000 1B120-1B122 1B155 1B164-1B167"]

/-- Punctuation inside words. -/
def midLetter : CharSet := .ofTable ["3A B7 387 55F 5F4 2027 FE13 FE55 FF1A"]

/-- Punctuation inside numbers. -/
def midNum : CharSet := .ofTable ["2C 3B 37E 589 60C-60D 66C 7F8 2044 FE50 FE54 FF0C FF1B"]

/-- Punctuation inside words and numbers. -/
def midNumLet : CharSet := .ofTable ["2E 2018-2019 2024 FE52 FF07 FF0E"]

/-- Ends of lines that have no class of their own. -/
def newline : CharSet := .ofTable ["B-C 85 2028-2029"]

/-- Blanks that stay together. -/
def wSegSpace : CharSet := .ofTable ["20 1680 2000-2006 2008-200A 205F 3000"]

/-- Letters of scripts without blanks between words. -/
def complexContext : CharSet := .ofTable
  ["E01-E30 E32-E33 E40-E46 E81-E82 E84 E86-E8A E8C-EA3 EA5 EA7-EB0 EB2-EB3 EBD EC0-EC4 EC6",
   "EDC-EDF 1000-102A 103F 1050-1055 105A-105D 1061 1065-1066 106E-1070 1075-1081 108E 1780-17B3",
   "17D7 17DC 1950-196D 1970-1974 1980-19AB 19B0-19C9 1A20-1A54 1AA7 A9E0-A9E4 A9E6-A9EF",
   "A9FA-A9FE AA60-AA76 AA7A AA7E-AAAF AAB1 AAB5-AAB6 AAB9-AABD AAC0 AAC2 AADB-AADD 11700-1171A",
   "11740-11746"]

/-- Signs that count as letters. -/
def letterSign : CharSet := .ofTable
  ["2C2-2C5 2D2-2D7 2DE-2DF 2E5-2EB 2ED 2EF-2FF 55A-55C 55E 58A 5F3 70F A708-A716 A720-A721",
   "A789-A78A AB5B"]

/-- Letters of scripts with blanks between words. -/
def aLetter : CharSet :=
  (Property.alphabetic \ (Property.ideographic ∪ katakana ∪ hebrewLetter ∪
    ((Script.find? "hiragana").elim ∅ Script.members) ∪ extend ∪ complexContext)) ∪ letterSign

def all : List NamedSet :=
  [⟨["le", "aletter"], aLetter⟩,
    ⟨["cr"], carriageReturn⟩,
    ⟨["dq", "doublequote"], .single '\"'⟩,
    ⟨["extend"], extend⟩,
    ⟨["ex", "extendnumlet"], extendNumLet⟩,
    ⟨["fo", "format"], format⟩,
    ⟨["hl", "hebrewletter"], hebrewLetter⟩,
    ⟨["ka", "katakana"], katakana⟩,
    ⟨["lf"], lineFeed⟩,
    ⟨["ml", "midletter"], midLetter⟩,
    ⟨["mn", "midnum"], midNum⟩,
    ⟨["mb", "midnumlet"], midNumLet⟩,
    ⟨["nl", "newline"], newline⟩,
    ⟨["nu", "numeric"], numeric⟩,
    ⟨["ri", "regionalindicator"], Property.regionalIndicator⟩,
    ⟨["sq", "singlequote"], .single '\''⟩,
    ⟨["wsegspace"], wSegSpace⟩,
    ⟨["zwj"], zeroWidthJoiner⟩]

end WordBreak

/-! ## Sentences -/

namespace SentenceBreak

/-- Georgian letters, which have no case where sentences begin. -/
def georgian : CharSet := .ofTable ["10D0-10FA 10FD-10FF 1C90-1CBA 1CBD-1CBF"]

def lower : CharSet := Property.lowercase \ (Property.graphemeExtend ∪ georgian)

def upper : CharSet := (Property.uppercase ∪ Category.titlecaseLetter) \ georgian

def numeric : CharSet := WordBreak.numeric ∪ .ofTable ["66C"]

/-- Marks that belong to the character in front of them. -/
def extend : CharSet := Property.graphemeExtend ∪ Category.spacingMark ∪ zeroWidthJoiner

/-- Letters without case. -/
def oLetter : CharSet :=
  (Property.alphabetic ∪ .ofTable ["5F3"]) \ (lower ∪ upper ∪ extend)

/-- Characters that do not count where they are. -/
def format : CharSet :=
  Category.format \ (zeroWidthJoiner ∪ zeroWidthNonJoiner ∪ Property.graphemeExtend ∪ numeric)

/-- Ends of lines that have no class of their own. -/
def sep : CharSet := .ofTable ["85 2028-2029"]

/-- Blanks inside lines. -/
def sp : CharSet := Property.whiteSpace \ (sep ∪ carriageReturn ∪ lineFeed)

/-- Full stops, which may end a sentence. -/
def aTerm : CharSet := .ofTable ["2E 2024 FE52 FF0E"]

/-- What else may end a sentence. -/
def sTerm : CharSet := Property.sentenceTerminal \ aTerm

/-- Quotation marks that open and close. -/
def quoteMark : CharSet := .ofTable ["22 27 275B-2760 2E00-2E01 2E06-2E08 2E0B 1F676-1F678"]

/-- Brackets and quotation marks. -/
def close : CharSet :=
  Category.openPunctuation ∪ Category.closePunctuation ∪ Category.initialPunctuation ∪
    Category.finalPunctuation ∪ quoteMark

/-- Punctuation inside sentences. -/
def sContinue : CharSet := .ofTable
  ["2C-2D 3A-3B 37E 55D 60C-60D 7F8 1802 1808 2013-2014 3001 FE10-FE11 FE13-FE14 FE31-FE32",
   "FE50-FE51 FE54-FE55 FE58 FE63 FF0C-FF0D FF1A-FF1B FF64"]

def all : List NamedSet :=
  [⟨["at", "aterm"], aTerm⟩,
    ⟨["cr"], carriageReturn⟩,
    ⟨["cl", "close"], close⟩,
    ⟨["ex", "extend"], extend⟩,
    ⟨["fo", "format"], format⟩,
    ⟨["lf"], lineFeed⟩,
    ⟨["lo", "lower"], lower⟩,
    ⟨["nu", "numeric"], numeric⟩,
    ⟨["le", "oletter"], oLetter⟩,
    ⟨["sc", "scontinue"], sContinue⟩,
    ⟨["st", "sterm"], sTerm⟩,
    ⟨["se", "sep"], sep⟩,
    ⟨["sp"], sp⟩,
    ⟨["up", "upper"], upper⟩]

end SentenceBreak

end CodeFolding
