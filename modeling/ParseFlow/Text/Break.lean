import ParseFlow.Text.BinaryProperty
import ParseFlow.Text.Script

/-!
# Classes of characters where text breaks

The class of a character for the boundaries of grapheme clusters, of words and of sentences. The
first test that holds decides.
-/
namespace ParseFlow.Text

/-! ## Grapheme clusters -/

inductive GraphemeBreak where
  | cr | lf | control | extend | joiner | regionalIndicator | prepended | spacingMark
  | leading | vowel | trailing | syllable | closedSyllable | other
  deriving DecidableEq, Repr

/-- Characters that stand before the cluster they belong to. -/
def clusterStarts : Intervals :=
  [(0x600, 0x605), (0x6dd, 0x6dd), (0x70f, 0x70f), (0x890, 0x891), (0x8e2, 0x8e2), (0xd4e, 0xd4e),
  (0x110bd, 0x110bd), (0x110cd, 0x110cd), (0x111c2, 0x111c3), (0x1193f, 0x1193f),
  (0x11941, 0x11941), (0x11a3a, 0x11a3a), (0x11a84, 0x11a89), (0x11d46, 0x11d46), (0x11f02, 0x11f02)]

/-- Spacing marks that a cluster does not hold. -/
def separateMarks : Intervals :=
  [(0x102b, 0x102c), (0x1038, 0x1038), (0x1062, 0x1064), (0x1067, 0x106d), (0x1083, 0x1083),
  (0x1087, 0x108c), (0x108f, 0x108f), (0x109a, 0x109c), (0x1a61, 0x1a61), (0x1a63, 0x1a64),
  (0xaa7b, 0xaa7b), (0xaa7d, 0xaa7d), (0x11720, 0x11721)]

/-- Consonants of Hangul that begin a syllable. -/
def leadingConsonants : Intervals := [(0x1100, 0x115f), (0xa960, 0xa97c)]

/-- Vowels of Hangul. -/
def hangulVowels : Intervals := [(0x1160, 0x11a7), (0xd7b0, 0xd7c6)]

/-- Consonants of Hangul that end a syllable. -/
def trailingConsonants : Intervals := [(0x11a8, 0x11ff), (0xd7cb, 0xd7fb)]

def isEmojiModifier (c : Char) : Bool := emojiModifiers.contains c.toNat

/-- Characters without a form of their own, also those not yet assigned that are to be ignored. -/
def isControlling (c : Char) : Bool :=
  match category c with
  | .zl | .zp | .cc => true
  | .cf => !(c.toNat == 0x200d || prependedMarks.contains c.toNat)
  | .cn => isDefaultIgnorable c
  | _ => false

/-- Spacing marks, among them two vowels that are letters. -/
def isSpacingMark (c : Char) : Bool :=
  (category c == .mc && !separateMarks.contains c.toNat) || c.toNat == 0xe33 || c.toNat == 0xeb3

def graphemeBreak (c : Char) : GraphemeBreak :=
  if c.toNat == 0xd then .cr
  else if c.toNat == 0xa then .lf
  else if isExtender c || isEmojiModifier c then .extend
  else if c.toNat == 0x200d then .joiner
  else if isControlling c then .control
  else if isRegionalIndicator c then .regionalIndicator
  else if clusterStarts.contains c.toNat then .prepended
  else if isSpacingMark c then .spacingMark
  else if leadingConsonants.contains c.toNat then .leading
  else if hangulVowels.contains c.toNat then .vowel
  else if trailingConsonants.contains c.toNat then .trailing
  else if 0xac00 ≤ c.toNat && c.toNat ≤ 0xd7a3 then
    if (c.toNat - 0xac00) % 28 == 0 then .syllable else .closedSyllable
  else .other

/-! ## Words -/

inductive WordBreak where
  | cr | lf | newline | extend | joiner | format | regionalIndicator | katakana | hebrewLetter
  | doubleQuote | singleQuote | midNumLet | midLetter | midNum | numeric | extendNumLet | wordSpace
  | letter | other
  deriving DecidableEq, Repr

/-- Signs beside those written in Katakana that its words hold. -/
def katakanaSigns : Intervals :=
  [(0x3031, 0x3035), (0x309b, 0x309c), (0x30a0, 0x30a0), (0x30fc, 0x30fc), (0xff70, 0xff70)]

/-- Marks that a word or a number may hold inside. -/
def insideWordsAndNumbers : Intervals :=
  [(0x2e, 0x2e), (0x2018, 0x2019), (0x2024, 0x2024), (0xfe52, 0xfe52), (0xff07, 0xff07),
  (0xff0e, 0xff0e)]

/-- Marks that a word may hold inside. -/
def insideWords : Intervals :=
  [(0x3a, 0x3a), (0xb7, 0xb7), (0x387, 0x387), (0x55f, 0x55f), (0x5f4, 0x5f4), (0x2027, 0x2027),
  (0xfe13, 0xfe13), (0xfe55, 0xfe55), (0xff1a, 0xff1a)]

/-- Marks that a number may hold inside. -/
def insideNumbers : Intervals :=
  [(0x2c, 0x2c), (0x3b, 0x3b), (0x37e, 0x37e), (0x589, 0x589), (0x60c, 0x60d), (0x66c, 0x66c),
  (0x7f8, 0x7f8), (0x2044, 0x2044), (0xfe10, 0xfe10), (0xfe14, 0xfe14), (0xfe50, 0xfe50),
  (0xfe54, 0xfe54), (0xff0c, 0xff0c), (0xff1b, 0xff1b)]

/-- Signs of words that are not alphabetic. -/
def otherWordLetters : Intervals :=
  [(0x2c2, 0x2c5), (0x2d2, 0x2d7), (0x2de, 0x2df), (0x2e5, 0x2eb), (0x2ed, 0x2ed), (0x2ef, 0x2ff),
  (0x55a, 0x55c), (0x55e, 0x55e), (0x58a, 0x58a), (0x5f3, 0x5f3), (0xa708, 0xa716), (0xa720, 0xa721),
  (0xa789, 0xa78a), (0xab5b, 0xab5b)]

/-- Letters of scripts that do not part words by spaces. -/
def unspacedLetters : Intervals :=
  [(0xe01, 0xe3a), (0xe40, 0xe4e), (0xe81, 0xe82), (0xe84, 0xe84), (0xe86, 0xe8a), (0xe8c, 0xea3),
  (0xea5, 0xea5), (0xea7, 0xebd), (0xec0, 0xec4), (0xec6, 0xec6), (0xec8, 0xece), (0xedc, 0xedf),
  (0x1000, 0x103f), (0x1050, 0x108f), (0x109a, 0x109f), (0x1780, 0x17d3), (0x17d7, 0x17d7),
  (0x17dc, 0x17dd), (0x1950, 0x196d), (0x1970, 0x1974), (0x1980, 0x19ab), (0x19b0, 0x19c9),
  (0x19da, 0x19da), (0x19de, 0x19df), (0x1a20, 0x1a5e), (0x1a60, 0x1a7c), (0x1aa0, 0x1aad),
  (0xa9e0, 0xa9ef), (0xa9fa, 0xa9fe), (0xaa60, 0xaac2), (0xaadb, 0xaadf), (0x11700, 0x1171a),
  (0x1171d, 0x1172b), (0x1173a, 0x1173b), (0x1173f, 0x11746)]

/-- Spacing marks and everything else that extends a character within a word. -/
def extendsWords (c : Char) : Bool := isExtender c || category c == .mc || isEmojiModifier c

def isWordLetter (c : Char) : Bool :=
  (isAlphabetic c || otherWordLetters.contains c.toNat)
    && !(ideographs.contains c.toNat || unspacedLetters.contains c.toNat || script c == .hira)

def wordBreak (c : Char) : WordBreak :=
  if c.toNat == 0xd then .cr
  else if c.toNat == 0xa then .lf
  else if [0xb, 0xc, 0x85, 0x2028, 0x2029].contains c.toNat then .newline
  else if extendsWords c then .extend
  else if c.toNat == 0x200d then .joiner
  else if category c == .cf && c.toNat != 0x200b then .format
  else if isRegionalIndicator c then .regionalIndicator
  else if script c == .kana || katakanaSigns.contains c.toNat then .katakana
  else if script c == .hebr && category c == .lo then .hebrewLetter
  else if c.toNat == 0x22 then .doubleQuote
  else if c.toNat == 0x27 then .singleQuote
  else if insideWordsAndNumbers.contains c.toNat then .midNumLet
  else if insideWords.contains c.toNat then .midLetter
  else if insideNumbers.contains c.toNat then .midNum
  else if category c == .nd || c.toNat == 0x66b then .numeric
  else if category c == .pc || c.toNat == 0x202f then .extendNumLet
  else if category c == .zs && c.toNat != 0xa0 && c.toNat != 0x2007 then .wordSpace
  else if isWordLetter c then .letter
  else .other

/-! ## Sentences -/

inductive SentenceBreak where
  | cr | lf | separator | extend | format | space | lower | upper | letter | numeric | fullStop
  | continuer | terminal | closer | other
  deriving DecidableEq, Repr

/-- Letters of Georgian whose case says nothing about sentences. -/
def georgianLetters : Intervals :=
  [(0x10d0, 0x10fa), (0x10fd, 0x10ff), (0x1c90, 0x1cba), (0x1cbd, 0x1cbf)]

/-- Full stops, which may also end an abbreviation. -/
def fullStops : Intervals := [(0x2e, 0x2e), (0x2024, 0x2024), (0xfe52, 0xfe52), (0xff0e, 0xff0e)]

/-- Marks after which a sentence goes on. -/
def sentenceContinuers : Intervals :=
  [(0x2c, 0x2d), (0x3a, 0x3a), (0x55d, 0x55d), (0x60c, 0x60d), (0x7f8, 0x7f8), (0x1802, 0x1802),
  (0x1808, 0x1808), (0x2013, 0x2014), (0x3001, 0x3001), (0xfe10, 0xfe11), (0xfe13, 0xfe13),
  (0xfe31, 0xfe32), (0xfe50, 0xfe51), (0xfe55, 0xfe55), (0xfe58, 0xfe58), (0xfe63, 0xfe63),
  (0xff0c, 0xff0d), (0xff1a, 0xff1a), (0xff64, 0xff64)]

/-- Quotation marks and ornaments that the category does not tell. -/
def otherQuotes : Intervals :=
  [(0x22, 0x22), (0x27, 0x27), (0x275b, 0x2760), (0x2e00, 0x2e01), (0x2e06, 0x2e08),
  (0x2e0b, 0x2e0b), (0x1f676, 0x1f678)]

/-- Brackets and quotation marks. -/
def isEnclosing (c : Char) : Bool :=
  match category c with
  | .ps | .pe | .pi | .pf => true
  | _ => otherQuotes.contains c.toNat

def sentenceBreak (c : Char) : SentenceBreak :=
  if c.toNat == 0xd then .cr
  else if c.toNat == 0xa then .lf
  else if [0x85, 0x2028, 0x2029].contains c.toNat then .separator
  else if isExtender c || category c == .mc || c.toNat == 0x200d then .extend
  else if category c == .cf then .format
  else if isBlank c then .space
  else if isLowercase c && !georgianLetters.contains c.toNat then .lower
  else if (isUppercase c || category c == .lt) && !georgianLetters.contains c.toNat then .upper
  else if isAlphabetic c || c.toNat == 0x5f3 then .letter
  else if category c == .nd || c.toNat == 0x66b || c.toNat == 0x66c then .numeric
  else if fullStops.contains c.toNat then .fullStop
  else if sentenceContinuers.contains c.toNat then .continuer
  else if sentenceEnds.contains c.toNat then .terminal
  else if isEnclosing c then .closer
  else .other

end ParseFlow.Text
