import MessageContract.Unicode.Property
import MessageContract.Unicode.Script

/-!
# Segments of text

The parts that characters play where a text is divided: into clusters, which readers take for one
character, into words and into sentences. In each of the three a character plays at most one part.
-/

namespace MessageContract.Segment

/-- The character that joins those beside it. -/
def joiner : CharSet := .char '\u200D'

/-! ## Clusters -/

namespace Cluster

/-- What is joined to the character before it. -/
def extend : CharSet := Property.graphemeExtend ∪ Property.emojiModifier

/-- What is joined to the character behind it. -/
def prepend : CharSet :=
  Property.prependedMark ∪
    .ofRows ["d4e 111c2-111c3 113d1 1193f 11941 11a3a 11a84-11a89 11d46 11f02"]

/-- Marks that take room and still belong to the character before them. -/
def spacingMark : CharSet :=
  ((Category.spacingMark ∪ .ofRows ["e33 eb3"]) \ extend) \
    .ofRows ["102b-102c 1038 1062-1064 1067-106d 1083 1087-108c 108f 109a-109c 1a61 1a63-1a64 aa7b",
      "aa7d 11720-11721"]

/-- What stands alone. -/
def control : CharSet :=
  (Category.lineSeparator ∪ Category.paragraphSeparator ∪ Category.control ∪ Category.format ∪
    (Category.unassigned ∩ Property.defaultIgnorable)) \
      (extend ∪ prepend ∪ joiner ∪ .ofRows ["a d"])

/-- Consonants at the start of syllables. -/
def leading : CharSet := .ofRows ["1100-115f a960-a97c"]

def vowel : CharSet := .ofRows ["1160-11a7 d7b0-d7c6 16d63 16d67-16d6a"]

/-- Consonants at the end of syllables. -/
def trailing : CharSet := .ofRows ["11a8-11ff d7cb-d7fb"]

private def syllable : CharSet := .range 0xAC00 0xD7A3

/-- Syllables without a consonant at their end: every twenty-eighth. -/
def openSyllable : CharSet :=
  .ofSpans ((List.range 399).map fun i => ⟨0xAC00 + 28 * i, 0xAC00 + 28 * i⟩)

def closedSyllable : CharSet := syllable \ openSyllable

end Cluster

/-! ## Words -/

namespace Word

/-- What belongs to the character before it. -/
def extend : CharSet := Cluster.extend ∪ Category.spacingMark

def katakana : CharSet :=
  (Script.ofName? "katakana").getD .empty ∪ .ofRows ["3031-3035 309b-309c 30a0 30fc ff70"]

def hebrewLetter : CharSet := (Script.ofName? "hebrew").getD .empty ∩ Category.otherLetter

/-- Letters of scripts whose words have no blanks between them. -/
def unspaced : CharSet :=
  .ofRows ["e01-e30 e32-e33 e40-e46 e81-e82 e84 e86-e8a e8c-ea3 ea5 ea7-eb0 eb2-eb3 ebd ec0-ec4",
    "ec6 edc-edf 1000-102a 103f 1050-1055 105a-105d 1061 1065-1066 106e-1070 1075-1081 108e",
    "1780-17b3 17d7 17dc 1950-196d 1970-1974 1980-19ab 19b0-19c9 1a20-1a54 1aa7 a9e0-a9e4",
    "a9e6-a9ef a9fa-a9fe aa60-aa76 aa7a aa7e-aaaf aab1 aab5-aab6 aab9-aabd aac0 aac2 aadb-aadd",
    "11700-1171a 11740-11746"]

/-- Letters of words: alphabetic characters, and some that are used like letters. -/
def letter : CharSet :=
  (Property.alphabetic \
    (Property.ideographic ∪ katakana ∪ hebrewLetter ∪ unspaced ∪ extend ∪
      (Script.ofName? "hiragana").getD .empty)) ∪
    .ofRows ["2c2-2c5 2d2-2d7 2de-2df 2e5-2eb 2ed 2ef-2ff 55a-55c 55e 58a 5f3 70f a708-a716",
      "a720-a721 a789-a78a ab5b"]

/-- Signs that count as digits: those in front of numbers. -/
def numberSign : CharSet := Property.prependedMark \ .char '\u070F'

def numeric : CharSet := Category.decimalNumber ∪ numberSign ∪ .char '\u066B'

def format : CharSet := Category.format \ (Property.prependedMark ∪ extend ∪ .ofRows ["200b 200d"])

def middleOfNumbers : CharSet :=
  .ofRows ["2c 3b 37e 589 60c-60d 66c 7f8 2044 fe10 fe14 fe50 fe54 ff0c ff1b"]

def middleOfWords : CharSet := .ofRows ["3a b7 387 55f 5f4 2027 fe13 fe55 ff1a"]

def middleOfBoth : CharSet := .ofRows ["2e 2018-2019 2024 fe52 ff07 ff0e"]

/-- What joins letters and digits into one word. -/
def connector : CharSet := .ofRows ["5f 202f 203f-2040 2054 fe33-fe34 fe4d-fe4f ff3f"]

def newline : CharSet := .ofRows ["b-c 85 2028-2029"]

def space : CharSet := Category.spaceSeparator \ .ofRows ["a0 2007 202f"]

end Word

/-! ## Sentences -/

namespace Sentence

def extend : CharSet := Property.graphemeExtend ∪ Category.spacingMark ∪ joiner

def separator : CharSet := .ofRows ["85 2028-2029"]

def space : CharSet := Property.whiteSpace \ (separator ∪ .ofRows ["a d"])

def format : CharSet := Category.format \ (Property.prependedMark ∪ extend)

/-- Small letters of a script in which they begin sentences. -/
private def small : CharSet := .ofRows ["10d0-10fa 10fd-10ff"]

/-- Great letters of that script. -/
private def great : CharSet := .ofRows ["1c90-1cba 1cbd-1cbf"]

def lower : CharSet := Property.lowercase \ (extend ∪ small)

def upper : CharSet := (Property.uppercase ∪ Category.titlecaseLetter) \ (extend ∪ great)

/-- Letters that are neither. -/
def letter : CharSet := (Property.alphabetic \ (extend ∪ lower ∪ upper)) ∪ .ofRows ["5f3 70f"]

def numeric : CharSet := Word.numeric ∪ .char '\u066C'

/-- Full stops, which need not end a sentence. -/
def stop : CharSet := .ofRows ["2e 2024 fe52 ff0e"]

def terminal : CharSet := Property.sentenceTerminal \ stop

/-- What a sentence goes on behind. -/
def continued : CharSet :=
  .ofRows ["2c-2d 3a-3b 37e 55d 60c-60d 7f8 1802 1808 2013-2014 3001 fe10-fe11 fe13-fe14 fe31-fe32",
    "fe50-fe51 fe54-fe55 fe58 fe63 ff0c-ff0d ff1a-ff1b ff64"]

/-- Brackets and quotes. -/
def close : CharSet :=
  Category.openPunctuation ∪ Category.closePunctuation ∪ Category.initialPunctuation ∪
    Category.finalPunctuation ∪
    .ofRows ["22 27 275b-2760 2e00-2e01 2e06-2e08 2e0b 1f676-1f678"]

end Sentence

/-! ## Names -/

private def lineFeed : CharSet := .char '\n'

private def carriageReturn : CharSet := .char '\r'

/-- What a character does in clusters, by name. -/
def ofCluster? (name : String) : Option CharSet :=
  match name with
  | "cn" | "control" => some Cluster.control
  | "cr" => some carriageReturn
  | "ex" | "extend" => some Cluster.extend
  | "l" => some Cluster.leading
  | "lf" => some lineFeed
  | "lv" => some Cluster.openSyllable
  | "lvt" => some Cluster.closedSyllable
  | "pp" | "prepend" => some Cluster.prepend
  | "ri" | "regionalindicator" => some Property.regionalIndicator
  | "sm" | "spacingmark" => some Cluster.spacingMark
  | "t" => some Cluster.trailing
  | "v" => some Cluster.vowel
  | "zwj" => some joiner
  | _ => none

/-- What a character does in words, by name. -/
def ofWord? (name : String) : Option CharSet :=
  match name with
  | "le" | "aletter" => some Word.letter
  | "cr" => some carriageReturn
  | "dq" | "doublequote" => some (.char '"')
  | "extend" => some Word.extend
  | "ex" | "extendnumlet" => some Word.connector
  | "fo" | "format" => some Word.format
  | "hl" | "hebrewletter" => some Word.hebrewLetter
  | "ka" | "katakana" => some Word.katakana
  | "lf" => some lineFeed
  | "mb" | "midnumlet" => some Word.middleOfBoth
  | "ml" | "midletter" => some Word.middleOfWords
  | "mn" | "midnum" => some Word.middleOfNumbers
  | "nl" | "newline" => some Word.newline
  | "nu" | "numeric" => some Word.numeric
  | "ri" | "regionalindicator" => some Property.regionalIndicator
  | "sq" | "singlequote" => some (.char '\'')
  | "wsegspace" => some Word.space
  | "zwj" => some joiner
  | _ => none

/-- What a character does in sentences, by name. -/
def ofSentence? (name : String) : Option CharSet :=
  match name with
  | "at" | "aterm" => some Sentence.stop
  | "cl" | "close" => some Sentence.close
  | "cr" => some carriageReturn
  | "ex" | "extend" => some Sentence.extend
  | "fo" | "format" => some Sentence.format
  | "le" | "oletter" => some Sentence.letter
  | "lf" => some lineFeed
  | "lo" | "lower" => some Sentence.lower
  | "nu" | "numeric" => some Sentence.numeric
  | "sc" | "scontinue" => some Sentence.continued
  | "se" | "sep" => some Sentence.separator
  | "sp" => some Sentence.space
  | "st" | "sterm" => some Sentence.terminal
  | "up" | "upper" => some Sentence.upper
  | _ => none

end MessageContract.Segment
