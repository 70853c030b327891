import LinkVetting.Unicode.CaseChange
import LinkVetting.Unicode.Category
import LinkVetting.Unicode.Emoji
import LinkVetting.Unicode.Script
import LinkVetting.Unicode.Usage

/-!
# Classes by name

A class is named by a category, a script or a property. Names are compared in loose form: case,
blanks, hyphens and underscores do not count, and neither does a leading `is`.
-/

namespace LinkVetting.Unicode

def isLowercase (code : Nat) : Bool := lowercaseLetter.mem code || otherLowercase.mem code

def isUppercase (code : Nat) : Bool := uppercaseLetter.mem code || otherUppercase.mem code

def isCased (code : Nat) : Bool :=
  isLowercase code || isUppercase code || titlecaseLetter.mem code

/-- A character without case that may stand inside a word. -/
def isCaseIgnorable (code : Nat) : Bool :=
  nonspacingMark.mem code || enclosingMark.mem code || format.mem code ||
    modifierLetter.mem code || modifierSymbol.mem code || otherCaseIgnorable.mem code

def changesWhenLowercased (code : Nat) : Bool :=
  (isUppercase code || titlecaseLetter.mem code) && !keptByLowercasing.mem code

def changesWhenUppercased (code : Nat) : Bool :=
  (isLowercase code || titlecaseLetter.mem code) && !keptByUppercasing.mem code

def changesWhenTitlecased (code : Nat) : Bool :=
  (isLowercase code && !keptByTitlecasing.mem code) || titlecasedUppercase.mem code

def changesWhenFolded (code : Nat) : Bool :=
  ((isUppercase code || titlecaseLetter.mem code) && !keptByFolding.mem code) ||
    foldedLowercase.mem code

def isIdStart (code : Nat) : Bool :=
  (isLetter code && code != 0x2E2F) || letterNumber.mem code || otherIdStart.mem code

def isIdContinue (code : Nat) : Bool :=
  isIdStart code || nonspacingMark.mem code || spacingMark.mem code || decimalNumber.mem code ||
    connectorPunctuation.mem code || otherIdContinue.mem code

/-- A character that extenders can follow: visible, and not an extender itself. -/
def isGraphemeBase (code : Nat) : Bool :=
  !(control.mem code || format.mem code || privateUse.mem code || isSurrogate code ||
    isUnassigned code || lineSeparator.mem code || paragraphSeparator.mem code ||
    extendsGrapheme code)

/-- The loose form of a name. The name `isc` keeps its first two letters, since `c` alone is the
name of a category. -/
def looseName (name : List Char) : String :=
  let hasIs := match name with
    | first :: second :: _ => first.toLower == 'i' && second.toLower == 's'
    | _ => false
  let kept := ((if hasIs then name.drop 2 else name).filter fun c =>
    c.toNat < 0x80 && c != ' ' && c != '_' && c != '-').map Char.toLower
  if hasIs && kept == ['c'] then "isc" else String.ofList kept

def categories : List (List String × (Nat → Bool)) := [
  (["any"], fun _ => true),
  (["ascii"], fun code => code < 0x80),
  (["assigned"], fun code => !isUnassigned code),
  (["l", "letter"], isLetter),
  (["lc", "casedletter"], fun code =>
    lowercaseLetter.mem code || uppercaseLetter.mem code || titlecaseLetter.mem code),
  (["lu", "uppercaseletter"], uppercaseLetter.mem),
  (["ll", "lowercaseletter"], lowercaseLetter.mem),
  (["lt", "titlecaseletter"], titlecaseLetter.mem),
  (["lm", "modifierletter"], modifierLetter.mem),
  (["lo", "otherletter"], otherLetter.mem),
  (["m", "mark", "combiningmark"], isMark),
  (["mn", "nonspacingmark"], nonspacingMark.mem),
  (["mc", "spacingmark"], spacingMark.mem),
  (["me", "enclosingmark"], enclosingMark.mem),
  (["n", "number"], isNumber),
  (["nd", "decimalnumber", "digit"], decimalNumber.mem),
  (["nl", "letternumber"], letterNumber.mem),
  (["no", "othernumber"], otherNumber.mem),
  (["p", "punctuation", "punct"], isPunctuation),
  (["pc", "connectorpunctuation"], connectorPunctuation.mem),
  (["pd", "dashpunctuation"], dashPunctuation.mem),
  (["ps", "openpunctuation"], openPunctuation.mem),
  (["pe", "closepunctuation"], closePunctuation.mem),
  (["pi", "initialpunctuation"], initialPunctuation.mem),
  (["pf", "finalpunctuation"], finalPunctuation.mem),
  (["po", "otherpunctuation"], otherPunctuation.mem),
  (["s", "symbol"], isSymbol),
  (["sm", "mathsymbol"], mathSymbol.mem),
  (["sc", "currencysymbol"], currencySymbol.mem),
  (["sk", "modifiersymbol"], modifierSymbol.mem),
  (["so", "othersymbol"], otherSymbol.mem),
  (["z", "separator"], isSeparator),
  (["zs", "spaceseparator"], spaceSeparator.mem),
  (["zl", "lineseparator"], lineSeparator.mem),
  (["zp", "paragraphseparator"], paragraphSeparator.mem),
  (["c", "other"], fun code => control.mem code || format.mem code || privateUse.mem code ||
    isSurrogate code || isUnassigned code),
  (["cc", "control", "cntrl"], control.mem),
  (["cf", "format"], format.mem),
  (["co", "privateuse"], privateUse.mem),
  (["cn", "unassigned"], isUnassigned)]

/-- The properties that are either had or not, and their loose names. -/
def properties : List (List String × (Nat → Bool)) := [
  (["alpha", "alphabetic"], isAlphabetic),
  (["lower", "lowercase"], isLowercase),
  (["upper", "uppercase"], isUppercase),
  (["cased"], isCased),
  (["ci", "caseignorable"], isCaseIgnorable),
  (["cwl", "changeswhenlowercased"], changesWhenLowercased),
  (["cwu", "changeswhenuppercased"], changesWhenUppercased),
  (["cwt", "changeswhentitlecased"], changesWhenTitlecased),
  (["cwcf", "changeswhencasefolded"], changesWhenFolded),
  (["cwcm", "changeswhencasemapped"], fun code =>
    changesWhenLowercased code || changesWhenUppercased code || changesWhenTitlecased code),
  (["wspace", "whitespace", "space"], isSpace),
  (["grbase", "graphemebase"], isGraphemeBase),
  (["grext", "graphemeextend"], extendsGrapheme),
  (["ids", "idstart"], isIdStart),
  (["idc", "idcontinue"], isIdContinue),
  (["xids", "xidstart"], fun code =>
    isIdStart code && !splitByCompatibility.mem code && !splitAtStart.mem code),
  (["xidc", "xidcontinue"], fun code => isIdContinue code && !splitByCompatibility.mem code),
  (["math"], fun code => mathSymbol.mem code || otherMath.mem code),
  (["dash"], dash.mem),
  (["hex", "hexdigit"], hexDigit.mem),
  (["ahex", "asciihexdigit"], asciiHexDigit.mem),
  (["di", "defaultignorablecodepoint"], defaultIgnorableCodePoint.mem),
  (["dep", "deprecated"], deprecated.mem),
  (["dia", "diacritic"], diacritic.mem),
  (["ideo", "ideographic"], ideographic.mem),
  (["uideo", "unifiedideograph"], unifiedIdeograph.mem),
  (["joinc", "joincontrol"], joinControl.mem),
  (["loe", "logicalorderexception"], logicalOrderException.mem),
  (["nchar", "noncharactercodepoint"], noncharacterCodePoint.mem),
  (["patsyn", "patternsyntax"], patternSyntax.mem),
  (["patws", "patternwhitespace"], patternWhiteSpace.mem),
  (["pcm", "prependedconcatenationmark"], prependedConcatenationMark.mem),
  (["qmark", "quotationmark"], quotationMark.mem),
  (["radical"], radical.mem),
  (["ri", "regionalindicator"], regionalIndicator.mem),
  (["sd", "softdotted"], softDotted.mem),
  (["sterm", "sentenceterminal"], sentenceTerminal.mem),
  (["term", "terminalpunctuation"], fun code =>
    sentenceTerminal.mem code || otherTerminalPunctuation.mem code),
  (["vs", "variationselector"], variationSelector.mem),
  (["bidic", "bidicontrol"], bidiControl.mem),
  (["bidim", "bidimirrored"], bidiMirrored.mem),
  (["ext", "extender"], extender.mem),
  (["idsb", "idsbinaryoperator"], idsBinaryOperator.mem),
  (["idst", "idstrinaryoperator"], idsTrinaryOperator.mem),
  (["emoji"], emoji.mem),
  (["ecomp", "emojicomponent"], emojiComponent.mem),
  (["emod", "emojimodifier"], emojiModifier.mem),
  (["ebase", "emojimodifierbase"], emojiModifierBase.mem),
  (["epres", "emojipresentation"], emojiPresentation.mem),
  (["extpict", "extendedpictographic"], extendedPictographic.mem)]

/-- The loose names of the database's other properties. No class is made from their values. -/
def otherProperties : List String := [
  "age", "bc", "bidiclass", "bidimirroringglyph", "bidipairedbracket", "bidipairedbrackettype",
  "blk", "block", "bmg", "bpb", "bpt", "canonicalcombiningclass", "casefolding", "ccc", "ce",
  "cf", "changeswhennfkccasefolded", "compex", "compositionexclusion", "cwkcf",
  "decompositionmapping", "decompositiontype", "dm", "dt", "ea", "eastasianwidth", "equideo",
  "equivalentunifiedideograph", "expandsonnfc", "expandsonnfd", "expandsonnfkc",
  "expandsonnfkd", "fcnfkc", "fcnfkcclosure", "fullcompositionexclusion", "gcb",
  "graphemeclusterbreak", "graphemelink", "grlink", "hangulsyllabletype", "hst", "hyphen",
  "idcompatmathcontinue", "idcompatmathstart", "idsu", "idsunaryoperator", "incb",
  "indicconjunctbreak", "indicpositionalcategory", "indicsyllabiccategory", "inpc", "insc",
  "isc", "jamoshortname", "jg", "joininggroup", "joiningtype", "jsn", "jt", "lb", "lc",
  "linebreak", "lowercasemapping", "mcm", "modifiercombiningmark", "na", "na1", "name",
  "namealias", "nfcqc", "nfcquickcheck", "nfdqc", "nfdquickcheck", "nfkccasefold", "nfkccf",
  "nfkcqc", "nfkcquickcheck", "nfkcscf", "nfkcsimplecasefold", "nfkdqc", "nfkdquickcheck",
  "nt", "numerictype", "numericvalue", "nv", "sb", "scf", "scriptextensions", "scx",
  "sentencebreak", "sfc", "simplecasefolding", "simplelowercasemapping",
  "simpletitlecasemapping", "simpleuppercasemapping", "slc", "stc", "suc", "tc",
  "titlecasemapping", "uc", "unicode1name", "uppercasemapping", "verticalorientation", "vo",
  "wb", "wordbreak"]

/-- The loose names of categories and scripts that no character has. -/
def emptyValues : List String :=
  ["cs", "surrogate", "unknown", "zzzz", "hrkt", "katakanaorhiragana"]

def named (table : List (List String × (Nat → Bool))) (name : String) : Option (Nat → Bool) :=
  (table.find? (fun entry => entry.1.contains name)).map Prod.snd

inductive LookupError where
  | noSuchProperty
  | noSuchValue
  deriving DecidableEq, Repr

/-- The class of a category, given its loose name. -/
def categoryNamed (name : String) : Except LookupError (Nat → Bool) :=
  match named categories name with
  | some members => .ok members
  | none => .error .noSuchValue

/-- The class of a script, given its loose name. -/
def scriptClassNamed (name : String) : Except LookupError (Nat → Bool) :=
  match scriptNamed name with
  | some script => .ok script.runs.mem
  | none => .error .noSuchValue

/-- The class of a single name: a property, a category or a script, in this order. The names `cf`,
`sc` and `lc` mean categories. -/
def classNamed (name : List Char) : Except LookupError (Nat → Bool) :=
  let loose := looseName name
  match named properties loose <|> named categories loose <|>
      (scriptNamed loose).map (fun script => script.runs.mem) with
  | some members => .ok members
  | none => .error (if emptyValues.contains loose then .noSuchValue else .noSuchProperty)

/-- The class of the characters that have a value for a property. Only categories and scripts
have values that name a class. -/
def classWithValue (property value : List Char) : Except LookupError (Nat → Bool) :=
  let name := looseName property
  let loose := looseName value
  if ["gc", "generalcategory"].contains name then categoryNamed loose
  else if ["sc", "script"].contains name then scriptClassNamed loose
  else if (named properties name).isSome || otherProperties.contains name then
    .error .noSuchValue
  else .error .noSuchProperty

end LinkVetting.Unicode
