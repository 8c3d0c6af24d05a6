import ParseFlow.Text.Age
import ParseFlow.Text.Break

/-!
# Properties of characters by name

An expression names a property alone or as the value of another property. Case, spaces, hyphens and
underscores in a name do not count.
-/
namespace ParseFlow.Regex

open Text

/-- A property of characters that an expression can name. -/
inductive Property where
  | category (c : Category)
  | letter
  | casedLetter
  | mark
  | number
  | punctuation
  | symbol
  | separator
  | other
  | any
  | assigned
  | ascii
  | binary (p : BinaryProperty)
  | script (s : Script)
  /-- Used in the script, though perhaps written in another. -/
  | usedIn (s : Script)
  /-- Assigned in the version or before it. -/
  | age (version : Nat)
  | graphemeBreak (b : GraphemeBreak)
  | wordBreak (b : WordBreak)
  | sentenceBreak (b : SentenceBreak)
  deriving DecidableEq, Repr

namespace Property

def holds (p : Property) (c : Char) : Bool :=
  match p with
  | category k => Text.category c == k
  | letter => (Text.category c).isLetter
  | casedLetter => (Text.category c).isCasedLetter
  | mark => (Text.category c).isMark
  | number => (Text.category c).isNumber
  | punctuation => (Text.category c).isPunctuation
  | symbol => (Text.category c).isSymbol
  | separator => (Text.category c).isSeparator
  | other => (Text.category c).isOther
  | any => true
  | assigned => Text.category c != .cn
  | ascii => isAscii c
  | binary b => b.holds c
  | script s => Text.script c == s
  | usedIn s => (scriptsOf c).contains s
  | age version => isAsOldAs version c
  | graphemeBreak b => Text.graphemeBreak c == b
  | wordBreak b => Text.wordBreak c == b
  | sentenceBreak b => Text.sentenceBreak c == b

/-! ## Names -/

/-- The names of categories and of what is asked like one. -/
def categoryNames : List (String × Property) := [
  ("l", letter), ("letter", letter), ("lc", casedLetter), ("casedletter", casedLetter),
  ("lu", category .lu), ("uppercaseletter", category .lu),
  ("ll", category .ll), ("lowercaseletter", category .ll),
  ("lt", category .lt), ("titlecaseletter", category .lt),
  ("lm", category .lm), ("modifierletter", category .lm),
  ("lo", category .lo), ("otherletter", category .lo),
  ("m", mark), ("mark", mark), ("combiningmark", mark),
  ("mn", category .mn), ("nonspacingmark", category .mn),
  ("mc", category .mc), ("spacingmark", category .mc),
  ("me", category .me), ("enclosingmark", category .me),
  ("n", number), ("number", number),
  ("nd", category .nd), ("decimalnumber", category .nd), ("digit", category .nd),
  ("nl", category .nl), ("letternumber", category .nl),
  ("no", category .no), ("othernumber", category .no),
  ("p", punctuation), ("punctuation", punctuation), ("punct", punctuation),
  ("pc", category .pc), ("connectorpunctuation", category .pc),
  ("pd", category .pd), ("dashpunctuation", category .pd),
  ("ps", category .ps), ("openpunctuation", category .ps),
  ("pe", category .pe), ("closepunctuation", category .pe),
  ("pi", category .pi), ("initialpunctuation", category .pi),
  ("pf", category .pf), ("finalpunctuation", category .pf),
  ("po", category .po), ("otherpunctuation", category .po),
  ("s", symbol), ("symbol", symbol),
  ("sm", category .sm), ("mathsymbol", category .sm),
  ("sc", category .sc), ("currencysymbol", category .sc),
  ("sk", category .sk), ("modifiersymbol", category .sk),
  ("so", category .so), ("othersymbol", category .so),
  ("z", separator), ("separator", separator),
  ("zs", category .zs), ("spaceseparator", category .zs),
  ("zl", category .zl), ("lineseparator", category .zl),
  ("zp", category .zp), ("paragraphseparator", category .zp),
  ("c", other), ("other", other),
  ("cc", category .cc), ("control", category .cc), ("cntrl", category .cc),
  ("cf", category .cf), ("format", category .cf),
  ("co", category .co), ("privateuse", category .co),
  ("cn", category .cn), ("unassigned", category .cn),
  ("any", any), ("assigned", assigned), ("ascii", ascii)]

def binaryNames : List (String × BinaryProperty) := [
  ("ahex", .asciiHexDigit), ("asciihexdigit", .asciiHexDigit), ("alpha", .alphabetic),
  ("alphabetic", .alphabetic), ("bidic", .bidiControl), ("bidicontrol", .bidiControl),
  ("bidim", .bidiMirrored), ("bidimirrored", .bidiMirrored), ("ci", .caseIgnorable),
  ("caseignorable", .caseIgnorable), ("cased", .cased), ("cwcf", .changesWhenCasefolded),
  ("changeswhencasefolded", .changesWhenCasefolded), ("cwcm", .changesWhenCasemapped),
  ("changeswhencasemapped", .changesWhenCasemapped), ("cwl", .changesWhenLowercased),
  ("changeswhenlowercased", .changesWhenLowercased), ("cwt", .changesWhenTitlecased),
  ("changeswhentitlecased", .changesWhenTitlecased), ("cwu", .changesWhenUppercased),
  ("changeswhenuppercased", .changesWhenUppercased), ("dash", .dash), ("di", .defaultIgnorable),
  ("defaultignorablecodepoint", .defaultIgnorable), ("dep", .deprecated),
  ("deprecated", .deprecated), ("dia", .diacritic), ("diacritic", .diacritic), ("emoji", .emoji),
  ("ecomp", .emojiComponent), ("emojicomponent", .emojiComponent), ("emod", .emojiModifier),
  ("emojimodifier", .emojiModifier), ("ebase", .emojiModifierBase),
  ("emojimodifierbase", .emojiModifierBase), ("epres", .emojiPresentation),
  ("emojipresentation", .emojiPresentation), ("extpict", .extendedPictographic),
  ("extendedpictographic", .extendedPictographic), ("ext", .extender), ("extender", .extender),
  ("grbase", .graphemeBase), ("graphemebase", .graphemeBase), ("grext", .graphemeExtend),
  ("graphemeextend", .graphemeExtend), ("grlink", .graphemeLink), ("graphemelink", .graphemeLink),
  ("hex", .hexDigit), ("hexdigit", .hexDigit), ("hyphen", .hyphen), ("idsb", .idsBinaryOperator),
  ("idsbinaryoperator", .idsBinaryOperator), ("idst", .idsTrinaryOperator),
  ("idstrinaryoperator", .idsTrinaryOperator), ("idc", .idContinue), ("idcontinue", .idContinue),
  ("ids", .idStart), ("idstart", .idStart), ("ideo", .ideographic), ("ideographic", .ideographic),
  ("joinc", .joinControl), ("joincontrol", .joinControl), ("loe", .logicalOrderException),
  ("logicalorderexception", .logicalOrderException), ("lower", .lowercase),
  ("lowercase", .lowercase), ("math", .math), ("nchar", .noncharacter),
  ("noncharactercodepoint", .noncharacter), ("oalpha", .otherAlphabetic),
  ("otheralphabetic", .otherAlphabetic), ("odi", .otherDefaultIgnorable),
  ("otherdefaultignorablecodepoint", .otherDefaultIgnorable), ("ogrext", .otherGraphemeExtend),
  ("othergraphemeextend", .otherGraphemeExtend), ("oidc", .otherIdContinue),
  ("otheridcontinue", .otherIdContinue), ("oids", .otherIdStart), ("otheridstart", .otherIdStart),
  ("olower", .otherLowercase), ("otherlowercase", .otherLowercase), ("omath", .otherMath),
  ("othermath", .otherMath), ("oupper", .otherUppercase), ("otheruppercase", .otherUppercase),
  ("patsyn", .patternSyntax), ("patternsyntax", .patternSyntax), ("patws", .patternWhiteSpace),
  ("patternwhitespace", .patternWhiteSpace), ("pcm", .prependedConcatenationMark),
  ("prependedconcatenationmark", .prependedConcatenationMark), ("qmark", .quotationMark),
  ("quotationmark", .quotationMark), ("radical", .radical), ("ri", .regionalIndicator),
  ("regionalindicator", .regionalIndicator), ("sterm", .sentenceTerminal),
  ("sentenceterminal", .sentenceTerminal), ("sd", .softDotted), ("softdotted", .softDotted),
  ("term", .terminalPunctuation), ("terminalpunctuation", .terminalPunctuation),
  ("uideo", .unifiedIdeograph), ("unifiedideograph", .unifiedIdeograph), ("upper", .uppercase),
  ("uppercase", .uppercase), ("vs", .variationSelector), ("variationselector", .variationSelector),
  ("wspace", .whiteSpace), ("space", .whiteSpace), ("whitespace", .whiteSpace),
  ("xidc", .xidContinue), ("xidcontinue", .xidContinue), ("xids", .xidStart),
  ("xidstart", .xidStart)]

def scriptNames : List (String × Script) := [
  ("adlm", .adlm), ("adlam", .adlm), ("aghb", .aghb), ("caucasianalbanian", .aghb), ("ahom", .ahom),
  ("arab", .arab), ("arabic", .arab), ("armi", .armi), ("imperialaramaic", .armi), ("armn", .armn),
  ("armenian", .armn), ("avst", .avst), ("avestan", .avst), ("bali", .bali), ("balinese", .bali),
  ("bamu", .bamu), ("bamum", .bamu), ("bass", .bass), ("bassavah", .bass), ("batk", .batk),
  ("batak", .batk), ("beng", .beng), ("bengali", .beng), ("bhks", .bhks), ("bhaiksuki", .bhks),
  ("bopo", .bopo), ("bopomofo", .bopo), ("brah", .brah), ("brahmi", .brah), ("brai", .brai),
  ("braille", .brai), ("bugi", .bugi), ("buginese", .bugi), ("buhd", .buhd), ("buhid", .buhd),
  ("cakm", .cakm), ("chakma", .cakm), ("cans", .cans), ("canadianaboriginal", .cans),
  ("cari", .cari), ("carian", .cari), ("cham", .cham), ("cher", .cher), ("cherokee", .cher),
  ("chrs", .chrs), ("chorasmian", .chrs), ("copt", .copt), ("coptic", .copt), ("qaac", .copt),
  ("cpmn", .cpmn), ("cyprominoan", .cpmn), ("cprt", .cprt), ("cypriot", .cprt), ("cyrl", .cyrl),
  ("cyrillic", .cyrl), ("deva", .deva), ("devanagari", .deva), ("diak", .diak),
  ("divesakuru", .diak), ("dogr", .dogr), ("dogra", .dogr), ("dsrt", .dsrt), ("deseret", .dsrt),
  ("dupl", .dupl), ("duployan", .dupl), ("egyp", .egyp), ("egyptianhieroglyphs", .egyp),
  ("elba", .elba), ("elbasan", .elba), ("elym", .elym), ("elymaic", .elym), ("ethi", .ethi),
  ("ethiopic", .ethi), ("geor", .geor), ("georgian", .geor), ("glag", .glag), ("glagolitic", .glag),
  ("gong", .gong), ("gunjalagondi", .gong), ("gonm", .gonm), ("masaramgondi", .gonm),
  ("goth", .goth), ("gothic", .goth), ("gran", .gran), ("grantha", .gran), ("grek", .grek),
  ("greek", .grek), ("gujr", .gujr), ("gujarati", .gujr), ("guru", .guru), ("gurmukhi", .guru),
  ("hang", .hang), ("hangul", .hang), ("hani", .hani), ("han", .hani), ("hano", .hano),
  ("hanunoo", .hano), ("hatr", .hatr), ("hatran", .hatr), ("hebr", .hebr), ("hebrew", .hebr),
  ("hira", .hira), ("hiragana", .hira), ("hluw", .hluw), ("anatolianhieroglyphs", .hluw),
  ("hmng", .hmng), ("pahawhhmong", .hmng), ("hmnp", .hmnp), ("nyiakengpuachuehmong", .hmnp),
  ("hung", .hung), ("oldhungarian", .hung), ("ital", .ital), ("olditalic", .ital), ("java", .java),
  ("javanese", .java), ("kali", .kali), ("kayahli", .kali), ("kana", .kana), ("katakana", .kana),
  ("kawi", .kawi), ("khar", .khar), ("kharoshthi", .khar), ("khmr", .khmr), ("khmer", .khmr),
  ("khoj", .khoj), ("khojki", .khoj), ("kits", .kits), ("khitansmallscript", .kits),
  ("knda", .knda), ("kannada", .knda), ("kthi", .kthi), ("kaithi", .kthi), ("lana", .lana),
  ("taitham", .lana), ("laoo", .laoo), ("lao", .laoo), ("latn", .latn), ("latin", .latn),
  ("lepc", .lepc), ("lepcha", .lepc), ("limb", .limb), ("limbu", .limb), ("lina", .lina),
  ("lineara", .lina), ("linb", .linb), ("linearb", .linb), ("lisu", .lisu), ("lyci", .lyci),
  ("lycian", .lyci), ("lydi", .lydi), ("lydian", .lydi), ("mahj", .mahj), ("mahajani", .mahj),
  ("maka", .maka), ("makasar", .maka), ("mand", .mand), ("mandaic", .mand), ("mani", .mani),
  ("manichaean", .mani), ("marc", .marc), ("marchen", .marc), ("medf", .medf),
  ("medefaidrin", .medf), ("mend", .mend), ("mendekikakui", .mend), ("merc", .merc),
  ("meroiticcursive", .merc), ("mero", .mero), ("meroitichieroglyphs", .mero), ("mlym", .mlym),
  ("malayalam", .mlym), ("modi", .modi), ("mong", .mong), ("mongolian", .mong), ("mroo", .mroo),
  ("mro", .mroo), ("mtei", .mtei), ("meeteimayek", .mtei), ("mult", .mult), ("multani", .mult),
  ("mymr", .mymr), ("myanmar", .mymr), ("nagm", .nagm), ("nagmundari", .nagm), ("nand", .nand),
  ("nandinagari", .nand), ("narb", .narb), ("oldnortharabian", .narb), ("nbat", .nbat),
  ("nabataean", .nbat), ("newa", .newa), ("nkoo", .nkoo), ("nko", .nkoo), ("nshu", .nshu),
  ("nushu", .nshu), ("ogam", .ogam), ("ogham", .ogam), ("olck", .olck), ("olchiki", .olck),
  ("orkh", .orkh), ("oldturkic", .orkh), ("orya", .orya), ("oriya", .orya), ("osge", .osge),
  ("osage", .osge), ("osma", .osma), ("osmanya", .osma), ("ougr", .ougr), ("olduyghur", .ougr),
  ("palm", .palm), ("palmyrene", .palm), ("pauc", .pauc), ("paucinhau", .pauc), ("perm", .perm),
  ("oldpermic", .perm), ("phag", .phag), ("phagspa", .phag), ("phli", .phli),
  ("inscriptionalpahlavi", .phli), ("phlp", .phlp), ("psalterpahlavi", .phlp), ("phnx", .phnx),
  ("phoenician", .phnx), ("plrd", .plrd), ("miao", .plrd), ("prti", .prti),
  ("inscriptionalparthian", .prti), ("rjng", .rjng), ("rejang", .rjng), ("rohg", .rohg),
  ("hanifirohingya", .rohg), ("runr", .runr), ("runic", .runr), ("samr", .samr),
  ("samaritan", .samr), ("sarb", .sarb), ("oldsoutharabian", .sarb), ("saur", .saur),
  ("saurashtra", .saur), ("sgnw", .sgnw), ("signwriting", .sgnw), ("shaw", .shaw),
  ("shavian", .shaw), ("shrd", .shrd), ("sharada", .shrd), ("sidd", .sidd), ("siddham", .sidd),
  ("sind", .sind), ("khudawadi", .sind), ("sinh", .sinh), ("sinhala", .sinh), ("sogd", .sogd),
  ("sogdian", .sogd), ("sogo", .sogo), ("oldsogdian", .sogo), ("sora", .sora),
  ("sorasompeng", .sora), ("soyo", .soyo), ("soyombo", .soyo), ("sund", .sund),
  ("sundanese", .sund), ("sylo", .sylo), ("sylotinagri", .sylo), ("syrc", .syrc), ("syriac", .syrc),
  ("tagb", .tagb), ("tagbanwa", .tagb), ("takr", .takr), ("takri", .takr), ("tale", .tale),
  ("taile", .tale), ("talu", .talu), ("newtailue", .talu), ("taml", .taml), ("tamil", .taml),
  ("tang", .tang), ("tangut", .tang), ("tavt", .tavt), ("taiviet", .tavt), ("telu", .telu),
  ("telugu", .telu), ("tfng", .tfng), ("tifinagh", .tfng), ("tglg", .tglg), ("tagalog", .tglg),
  ("thaa", .thaa), ("thaana", .thaa), ("thai", .thai), ("tibt", .tibt), ("tibetan", .tibt),
  ("tirh", .tirh), ("tirhuta", .tirh), ("tnsa", .tnsa), ("tangsa", .tnsa), ("toto", .toto),
  ("ugar", .ugar), ("ugaritic", .ugar), ("vaii", .vaii), ("vai", .vaii), ("vith", .vith),
  ("vithkuqi", .vith), ("wara", .wara), ("warangciti", .wara), ("wcho", .wcho), ("wancho", .wcho),
  ("xpeo", .xpeo), ("oldpersian", .xpeo), ("xsux", .xsux), ("cuneiform", .xsux), ("yezi", .yezi),
  ("yezidi", .yezi), ("yiii", .yiii), ("yi", .yiii), ("zanb", .zanb), ("zanabazarsquare", .zanb),
  ("zinh", .zinh), ("inherited", .zinh), ("qaai", .zinh), ("zyyy", .zyyy), ("common", .zyyy)]

/-- A version is named by its numbers, with a point between them or behind a `v`. -/
def ageNames : List (String × Nat) :=
  ages.flatMap fun row =>
    [(s!"{row.1 / 10}.{row.1 % 10}", row.1), (s!"v{row.1}", row.1)]

def graphemeBreakNames : List (String × GraphemeBreak) := [
  ("cr", .cr), ("lf", .lf), ("cn", .control), ("control", .control), ("ex", .extend),
  ("extend", .extend), ("zwj", .joiner), ("ri", .regionalIndicator),
  ("regionalindicator", .regionalIndicator), ("pp", .prepended), ("prepend", .prepended),
  ("sm", .spacingMark), ("spacingmark", .spacingMark), ("l", .leading), ("v", .vowel),
  ("t", .trailing), ("lv", .syllable), ("lvt", .closedSyllable)]

def wordBreakNames : List (String × WordBreak) := [
  ("cr", .cr), ("lf", .lf), ("nl", .newline), ("newline", .newline), ("extend", .extend),
  ("zwj", .joiner), ("fo", .format), ("format", .format), ("ri", .regionalIndicator),
  ("regionalindicator", .regionalIndicator), ("ka", .katakana), ("katakana", .katakana),
  ("hl", .hebrewLetter), ("hebrewletter", .hebrewLetter), ("dq", .doubleQuote),
  ("doublequote", .doubleQuote), ("sq", .singleQuote), ("singlequote", .singleQuote),
  ("mb", .midNumLet), ("midnumlet", .midNumLet), ("ml", .midLetter), ("midletter", .midLetter),
  ("mn", .midNum), ("midnum", .midNum), ("nu", .numeric), ("numeric", .numeric),
  ("ex", .extendNumLet), ("extendnumlet", .extendNumLet), ("wsegspace", .wordSpace),
  ("le", .letter), ("aletter", .letter)]

def sentenceBreakNames : List (String × SentenceBreak) := [
  ("cr", .cr), ("lf", .lf), ("se", .separator), ("sep", .separator), ("ex", .extend),
  ("extend", .extend), ("fo", .format), ("format", .format), ("sp", .space), ("lo", .lower),
  ("lower", .lower), ("up", .upper), ("upper", .upper), ("le", .letter), ("oletter", .letter),
  ("nu", .numeric), ("numeric", .numeric), ("at", .fullStop), ("aterm", .fullStop),
  ("sc", .continuer), ("scontinue", .continuer), ("st", .terminal), ("sterm", .terminal),
  ("cl", .closer), ("close", .closer)]

/-- The characters of a name that count. -/
def essentials (name : List Char) : List Char :=
  (name.filter fun c => isAscii c && !(c == ' ' || c == '-' || c == '_')).flatMap lowerChar

/-- A name without what does not count, also without a leading `is`; but `isc` is not short for
`c`. -/
def normalName (name : String) : String :=
  match name.toList with
  | i :: s :: rest =>
    if lowerChar i == ['i'] && lowerChar s == ['s'] then
      let kept := essentials rest
      if kept == ['c'] then "isc" else String.ofList kept
    else String.ofList (essentials (i :: s :: rest))
  | chars => String.ofList (essentials chars)

/-- The property that a name tells by itself. -/
def ofName? (name : String) : Option Property :=
  let name := normalName name
  (binaryNames.lookup name).map binary <|> categoryNames.lookup name
    <|> (scriptNames.lookup name).map script

/-- The property of having a value. -/
def ofValue? (name value : String) : Option Property :=
  let value := normalName value
  match normalName name with
  | "gc" | "generalcategory" => categoryNames.lookup value
  | "sc" | "script" => (scriptNames.lookup value).map script
  | "scx" | "scriptextensions" => (scriptNames.lookup value).map usedIn
  | "age" => (ageNames.lookup value).map age
  | "gcb" | "graphemeclusterbreak" => (graphemeBreakNames.lookup value).map graphemeBreak
  | "wb" | "wordbreak" => (wordBreakNames.lookup value).map wordBreak
  | "sb" | "sentencebreak" => (sentenceBreakNames.lookup value).map sentenceBreak
  | _ => none

end Property
end ParseFlow.Regex
