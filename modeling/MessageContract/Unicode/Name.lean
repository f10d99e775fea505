import MessageContract.Unicode.Age
import MessageContract.Unicode.Segment

/-!
# Names of sets

The names under which general categories, properties, scripts, ages and the parts of segments are
known. Names are compared without case, blanks, hyphens and underscores, and without a leading `is`.
-/

namespace MessageContract.CharSet

/-- A name as it is compared. The name `isc` keeps its start. -/
def plainName (name : String) : String :=
  let cs := (name.toList.filter fun c => c != ' ' && c != '-' && c != '_' && c.toNat < 128).map
    Char.toLower
  match (name.toList.take 2).map Char.toLower, cs with
  | ['i', 's'], ['i', 's', 'c'] => "isc"
  | ['i', 's'], _ :: _ :: rest => String.ofList rest
  | _, cs => String.ofList cs

/-! ## General categories -/

/-- The general categories and their groups by their names. -/
def categories : List (List String × CharSet) :=
  [(["lu", "uppercaseletter"], Category.uppercaseLetter),
   (["ll", "lowercaseletter"], Category.lowercaseLetter),
   (["lt", "titlecaseletter"], Category.titlecaseLetter),
   (["lm", "modifierletter"], Category.modifierLetter),
   (["lo", "otherletter"], Category.otherLetter),
   (["lc", "casedletter"], Category.casedLetter),
   (["l", "letter"], Category.letter),
   (["mn", "nonspacingmark"], Category.nonspacingMark),
   (["mc", "spacingmark"], Category.spacingMark),
   (["me", "enclosingmark"], Category.enclosingMark),
   (["m", "mark", "combiningmark"], Category.mark),
   (["nd", "decimalnumber", "digit"], Category.decimalNumber),
   (["nl", "letternumber"], Category.letterNumber),
   (["no", "othernumber"], Category.otherNumber),
   (["n", "number"], Category.number),
   (["pc", "connectorpunctuation"], Category.connectorPunctuation),
   (["pd", "dashpunctuation"], Category.dashPunctuation),
   (["ps", "openpunctuation"], Category.openPunctuation),
   (["pe", "closepunctuation"], Category.closePunctuation),
   (["pi", "initialpunctuation"], Category.initialPunctuation),
   (["pf", "finalpunctuation"], Category.finalPunctuation),
   (["po", "otherpunctuation"], Category.otherPunctuation),
   (["p", "punctuation", "punct"], Category.punctuation),
   (["sm", "mathsymbol"], Category.mathSymbol),
   (["sc", "currencysymbol"], Category.currencySymbol),
   (["sk", "modifiersymbol"], Category.modifierSymbol),
   (["so", "othersymbol"], Category.otherSymbol),
   (["s", "symbol"], Category.symbol),
   (["zs", "spaceseparator"], Category.spaceSeparator),
   (["zl", "lineseparator"], Category.lineSeparator),
   (["zp", "paragraphseparator"], Category.paragraphSeparator),
   (["z", "separator"], Category.separator),
   (["cc", "control", "cntrl"], Category.control),
   (["cf", "format"], Category.format),
   (["co", "privateuse"], Category.privateUse),
   (["cn", "unassigned"], Category.unassigned),
   (["c", "other"], Category.other),
   (["any"], all),
   (["assigned"], Category.unassigned.complement),
   (["ascii"], range 0 127)]

/-! ## Properties -/

/-- The properties by their names. -/
def properties : List (List String × CharSet) :=
  [(["ahex", "asciihexdigit"], Property.asciiHexDigit),
   (["alpha", "alphabetic"], Property.alphabetic),
   (["bidic", "bidicontrol"], Property.bidiControl),
   (["bidim", "bidimirrored"], Property.bidiMirrored),
   (["cased"], Property.cased),
   (["ci", "caseignorable"], Property.caseIgnorable),
   (["cwcf", "changeswhencasefolded"], Property.changesWhenCasefolded),
   (["cwcm", "changeswhencasemapped"], Property.changesWhenCasemapped),
   (["cwl", "changeswhenlowercased"], Property.changesWhenLowercased),
   (["cwt", "changeswhentitlecased"], Property.changesWhenTitlecased),
   (["cwu", "changeswhenuppercased"], Property.changesWhenUppercased),
   (["dash"], Property.dash),
   (["dep", "deprecated"], Property.deprecated),
   (["di", "defaultignorablecodepoint"], Property.defaultIgnorable),
   (["dia", "diacritic"], Property.diacritic),
   (["ebase", "emojimodifierbase"], Property.emojiModifierBase),
   (["ecomp", "emojicomponent"], Property.emojiComponent),
   (["emod", "emojimodifier"], Property.emojiModifier),
   (["emoji"], Property.emoji),
   (["epres", "emojipresentation"], Property.emojiPresentation),
   (["ext", "extender"], Property.extender),
   (["extpict", "extendedpictographic"], Property.extendedPictographic),
   (["grbase", "graphemebase"], Property.graphemeBase),
   (["grext", "graphemeextend"], Property.graphemeExtend),
   (["grlink", "graphemelink"], Property.graphemeLink),
   (["hex", "hexdigit"], Property.hexDigit),
   (["hyphen"], Property.hyphen),
   (["idc", "idcontinue"], Property.idContinue),
   (["idcompatmathcontinue"], Property.compatibleMathContinue),
   (["idcompatmathstart"], Property.compatibleMathStart),
   (["ideo", "ideographic"], Property.ideographic),
   (["ids", "idstart"], Property.idStart),
   (["idsb", "idsbinaryoperator"], Property.binaryOperator),
   (["idst", "idstrinaryoperator"], Property.trinaryOperator),
   (["idsu", "idsunaryoperator"], Property.unaryOperator),
   (["joinc", "joincontrol"], Property.joinControl),
   (["loe", "logicalorderexception"], Property.logicalOrderException),
   (["lower", "lowercase"], Property.lowercase),
   (["math"], Property.math),
   (["mcm", "modifiercombiningmark"], Property.modifierCombiningMark),
   (["nchar", "noncharactercodepoint"], Property.noncharacter),
   (["oalpha", "otheralphabetic"], Property.otherAlphabetic),
   (["odi", "otherdefaultignorablecodepoint"], Property.otherDefaultIgnorable),
   (["ogrext", "othergraphemeextend"], Property.otherGraphemeExtend),
   (["oidc", "otheridcontinue"], Property.otherIdContinue),
   (["oids", "otheridstart"], Property.otherIdStart),
   (["olower", "otherlowercase"], Property.otherLowercase),
   (["omath", "othermath"], Property.otherMath),
   (["oupper", "otheruppercase"], Property.otherUppercase),
   (["patsyn", "patternsyntax"], Property.patternSyntax),
   (["patws", "patternwhitespace"], Property.patternWhiteSpace),
   (["pcm", "prependedconcatenationmark"], Property.prependedMark),
   (["qmark", "quotationmark"], Property.quotationMark),
   (["radical"], Property.radical),
   (["ri", "regionalindicator"], Property.regionalIndicator),
   (["sd", "softdotted"], Property.softDotted),
   (["space", "whitespace", "wspace"], Property.whiteSpace),
   (["sterm", "sentenceterminal"], Property.sentenceTerminal),
   (["term", "terminalpunctuation"], Property.terminalPunctuation),
   (["uideo", "unifiedideograph"], Property.unifiedIdeograph),
   (["upper", "uppercase"], Property.uppercase),
   (["vs", "variationselector"], Property.variationSelector),
   (["xidc", "xidcontinue"], Property.xidContinue),
   (["xids", "xidstart"], Property.xidStart)]

private def find? (table : List (List String × CharSet)) (name : String) : Option CharSet :=
  (table.find? fun e => e.1.contains name).map (·.2)

/-- The set with a name: a property, else a category, else a script. -/
def ofName? (name : String) : Option CharSet :=
  let name := plainName name
  ((find? properties name).or (find? categories name)).or (Script.ofName? name)

/-- The set of the characters for which a property has a value. -/
def ofNameAndValue? (name value : String) : Option CharSet :=
  let value := plainName value
  match plainName name with
  | "gc" => find? categories value
  | "generalcategory" => find? categories value
  | "sc" => Script.ofName? value
  | "script" => Script.ofName? value
  | "scx" => Script.extended? value
  | "scriptextensions" => Script.extended? value
  | "age" => Age.upTo? value
  | "gcb" => Segment.ofCluster? value
  | "graphemeclusterbreak" => Segment.ofCluster? value
  | "wb" => Segment.ofWord? value
  | "wordbreak" => Segment.ofWord? value
  | "sb" => Segment.ofSentence? value
  | "sentencebreak" => Segment.ofSentence? value
  | _ => none

end MessageContract.CharSet
