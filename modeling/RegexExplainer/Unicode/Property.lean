import RegexExplainer.Text.Basic
import RegexExplainer.Unicode.Alphabetic
import RegexExplainer.Unicode.Punctuation
import RegexExplainer.Unicode.Separator

/- Finding the character set that a property name stands for. All general categories are here. Of
the scripts only Greek and Latin are, alone and with the characters they share with others, and of
the properties that hold or do not only five. The rest is left out: other scripts and such
properties, ages, and the values of grapheme, word and sentence breaks. A pattern that asks for what
is left out is refused as if there were no such property, or no such value of it. -/
namespace RegexExplainer.Unicode

def greek : CharSet :=
  ⟨[⟨0x370, 0x373⟩, ⟨0x375, 0x377⟩, ⟨0x37A, 0x37D⟩, ⟨0x37F, 0x37F⟩, ⟨0x384, 0x384⟩,
    ⟨0x386, 0x386⟩, ⟨0x388, 0x38A⟩, ⟨0x38C, 0x38C⟩, ⟨0x38E, 0x3A1⟩, ⟨0x3A3, 0x3E1⟩,
    ⟨0x3F0, 0x3FF⟩, ⟨0x1D26, 0x1D2A⟩, ⟨0x1D5D, 0x1D61⟩, ⟨0x1D66, 0x1D6A⟩, ⟨0x1DBF, 0x1DBF⟩,
    ⟨0x1F00, 0x1F15⟩, ⟨0x1F18, 0x1F1D⟩, ⟨0x1F20, 0x1F45⟩, ⟨0x1F48, 0x1F4D⟩, ⟨0x1F50, 0x1F57⟩,
    ⟨0x1F59, 0x1F59⟩, ⟨0x1F5B, 0x1F5B⟩, ⟨0x1F5D, 0x1F5D⟩, ⟨0x1F5F, 0x1F7D⟩, ⟨0x1F80, 0x1FB4⟩,
    ⟨0x1FB6, 0x1FC4⟩, ⟨0x1FC6, 0x1FD3⟩, ⟨0x1FD6, 0x1FDB⟩, ⟨0x1FDD, 0x1FEF⟩, ⟨0x1FF2, 0x1FF4⟩,
    ⟨0x1FF6, 0x1FFE⟩, ⟨0x2126, 0x2126⟩, ⟨0xAB65, 0xAB65⟩, ⟨0x10140, 0x1018E⟩, ⟨0x101A0, 0x101A0⟩,
    ⟨0x1D200, 0x1D245⟩]⟩

def latin : CharSet :=
  ⟨[⟨0x41, 0x5A⟩, ⟨0x61, 0x7A⟩, ⟨0xAA, 0xAA⟩, ⟨0xBA, 0xBA⟩, ⟨0xC0, 0xD6⟩, ⟨0xD8, 0xF6⟩,
    ⟨0xF8, 0x2B8⟩, ⟨0x2E0, 0x2E4⟩, ⟨0x1D00, 0x1D25⟩, ⟨0x1D2C, 0x1D5C⟩, ⟨0x1D62, 0x1D65⟩,
    ⟨0x1D6B, 0x1D77⟩, ⟨0x1D79, 0x1DBE⟩, ⟨0x1E00, 0x1EFF⟩, ⟨0x2071, 0x2071⟩, ⟨0x207F, 0x207F⟩,
    ⟨0x2090, 0x209C⟩, ⟨0x212A, 0x212B⟩, ⟨0x2132, 0x2132⟩, ⟨0x214E, 0x214E⟩, ⟨0x2160, 0x2188⟩,
    ⟨0x2C60, 0x2C7F⟩, ⟨0xA722, 0xA787⟩, ⟨0xA78B, 0xA7CD⟩, ⟨0xA7D0, 0xA7D1⟩, ⟨0xA7D3, 0xA7D3⟩,
    ⟨0xA7D5, 0xA7DC⟩, ⟨0xA7F2, 0xA7FF⟩, ⟨0xAB30, 0xAB5A⟩, ⟨0xAB5C, 0xAB64⟩, ⟨0xAB66, 0xAB69⟩,
    ⟨0xFB00, 0xFB06⟩, ⟨0xFF21, 0xFF3A⟩, ⟨0xFF41, 0xFF5A⟩, ⟨0x10780, 0x10785⟩, ⟨0x10787, 0x107B0⟩,
    ⟨0x107B2, 0x107BA⟩, ⟨0x1DF00, 0x1DF1E⟩, ⟨0x1DF25, 0x1DF2A⟩]⟩

def greekExtended : CharSet :=
  ⟨[⟨0xB7, 0xB7⟩, ⟨0x300, 0x301⟩, ⟨0x304, 0x304⟩, ⟨0x306, 0x306⟩, ⟨0x308, 0x308⟩, ⟨0x313, 0x313⟩,
    ⟨0x342, 0x342⟩, ⟨0x345, 0x345⟩, ⟨0x370, 0x377⟩, ⟨0x37A, 0x37D⟩, ⟨0x37F, 0x37F⟩,
    ⟨0x384, 0x384⟩, ⟨0x386, 0x386⟩, ⟨0x388, 0x38A⟩, ⟨0x38C, 0x38C⟩, ⟨0x38E, 0x3A1⟩,
    ⟨0x3A3, 0x3E1⟩, ⟨0x3F0, 0x3FF⟩, ⟨0x1D26, 0x1D2A⟩, ⟨0x1D5D, 0x1D61⟩, ⟨0x1D66, 0x1D6A⟩,
    ⟨0x1DBF, 0x1DC1⟩, ⟨0x1F00, 0x1F15⟩, ⟨0x1F18, 0x1F1D⟩, ⟨0x1F20, 0x1F45⟩, ⟨0x1F48, 0x1F4D⟩,
    ⟨0x1F50, 0x1F57⟩, ⟨0x1F59, 0x1F59⟩, ⟨0x1F5B, 0x1F5B⟩, ⟨0x1F5D, 0x1F5D⟩, ⟨0x1F5F, 0x1F7D⟩,
    ⟨0x1F80, 0x1FB4⟩, ⟨0x1FB6, 0x1FC4⟩, ⟨0x1FC6, 0x1FD3⟩, ⟨0x1FD6, 0x1FDB⟩, ⟨0x1FDD, 0x1FEF⟩,
    ⟨0x1FF2, 0x1FF4⟩, ⟨0x1FF6, 0x1FFE⟩, ⟨0x205D, 0x205D⟩, ⟨0x2126, 0x2126⟩, ⟨0xAB65, 0xAB65⟩,
    ⟨0x10140, 0x1018E⟩, ⟨0x101A0, 0x101A0⟩, ⟨0x1D200, 0x1D245⟩]⟩

def latinExtended : CharSet :=
  ⟨[⟨0x41, 0x5A⟩, ⟨0x61, 0x7A⟩, ⟨0xAA, 0xAA⟩, ⟨0xB7, 0xB7⟩, ⟨0xBA, 0xBA⟩, ⟨0xC0, 0xD6⟩,
    ⟨0xD8, 0xF6⟩, ⟨0xF8, 0x2B8⟩, ⟨0x2BC, 0x2BC⟩, ⟨0x2C7, 0x2C7⟩, ⟨0x2C9, 0x2CB⟩, ⟨0x2CD, 0x2CD⟩,
    ⟨0x2D7, 0x2D7⟩, ⟨0x2D9, 0x2D9⟩, ⟨0x2E0, 0x2E4⟩, ⟨0x300, 0x30E⟩, ⟨0x310, 0x311⟩, ⟨0x313, 0x313⟩,
    ⟨0x320, 0x320⟩, ⟨0x323, 0x325⟩, ⟨0x32D, 0x32E⟩, ⟨0x330, 0x331⟩, ⟨0x358, 0x358⟩, ⟨0x35E, 0x35E⟩,
    ⟨0x363, 0x36F⟩, ⟨0x485, 0x486⟩, ⟨0x951, 0x952⟩, ⟨0x10FB, 0x10FB⟩, ⟨0x1D00, 0x1D25⟩,
    ⟨0x1D2C, 0x1D5C⟩, ⟨0x1D62, 0x1D65⟩, ⟨0x1D6B, 0x1D77⟩, ⟨0x1D79, 0x1DBE⟩, ⟨0x1DF8, 0x1DF8⟩,
    ⟨0x1E00, 0x1EFF⟩, ⟨0x202F, 0x202F⟩, ⟨0x2071, 0x2071⟩, ⟨0x207F, 0x207F⟩, ⟨0x2090, 0x209C⟩,
    ⟨0x20F0, 0x20F0⟩, ⟨0x212A, 0x212B⟩, ⟨0x2132, 0x2132⟩, ⟨0x214E, 0x214E⟩, ⟨0x2160, 0x2188⟩,
    ⟨0x2C60, 0x2C7F⟩, ⟨0x2E17, 0x2E17⟩, ⟨0xA700, 0xA707⟩, ⟨0xA722, 0xA787⟩, ⟨0xA78B, 0xA7CD⟩,
    ⟨0xA7D0, 0xA7D1⟩, ⟨0xA7D3, 0xA7D3⟩, ⟨0xA7D5, 0xA7DC⟩, ⟨0xA7F2, 0xA7FF⟩, ⟨0xA92E, 0xA92E⟩,
    ⟨0xAB30, 0xAB5A⟩, ⟨0xAB5C, 0xAB64⟩, ⟨0xAB66, 0xAB69⟩, ⟨0xFB00, 0xFB06⟩, ⟨0xFF21, 0xFF3A⟩,
    ⟨0xFF41, 0xFF5A⟩, ⟨0x10780, 0x10785⟩, ⟨0x10787, 0x107B0⟩, ⟨0x107B2, 0x107BA⟩,
    ⟨0x1DF00, 0x1DF1E⟩, ⟨0x1DF25, 0x1DF2A⟩]⟩

/-- Properties whose values are numbers. -/
def numericNames : List String :=
  ["cjkaccountingnumeric", "kaccountingnumeric", "cjkothernumeric", "kothernumeric",
    "cjkprimarynumeric", "kprimarynumeric", "nv", "numericvalue"]

/-- Properties whose values are texts. -/
def textNames : List String :=
  ["bmg", "bidimirroringglyph", "bpb", "bidipairedbracket", "cf", "casefolding",
    "cjkcompatibilityvariant", "kcompatibilityvariant", "dm", "decompositionmapping", "equideo",
    "equivalentunifiedideograph", "fcnfkc", "fcnfkcclosure", "lc", "lowercasemapping", "nfkccf",
    "nfkccasefold", "nfkcscf", "nfkcsimplecasefold", "scf", "simplecasefolding", "sfc", "slc",
    "simplelowercasemapping", "stc", "simpletitlecasemapping", "suc", "simpleuppercasemapping",
    "tc", "titlecasemapping", "uc", "uppercasemapping"]

/-- Names, sources and comments. -/
def sundryNames : List String :=
  ["cjkiicore", "kiicore", "cjkirggsource", "kirggsource", "cjkirghsource", "kirghsource",
    "cjkirgjsource", "kirgjsource", "cjkirgkpsource", "kirgkpsource", "cjkirgksource",
    "kirgksource", "cjkirgmsource", "kirgmsource", "cjkirgssource", "kirgssource",
    "cjkirgtsource", "kirgtsource", "cjkirguksource", "kirguksource", "cjkirgusource",
    "kirgusource", "cjkirgvsource", "kirgvsource", "cjkrsunicode", "krsunicode",
    "unicoderadicalstroke", "urs", "isc", "ocomment", "jsn", "jamoshortname", "kehcat", "kehdesc",
    "kehhg", "kehifao", "kehjsesh", "na", "name", "na1", "unicode1name", "namealias", "scx",
    "scriptextensions"]

/-- Properties whose values are listed. -/
def listedNames : List String :=
  ["age", "blk", "block", "sc", "script", "bc", "bidiclass", "bpt", "bidipairedbrackettype",
    "ccc", "canonicalcombiningclass", "dt", "decompositiontype", "ea", "eastasianwidth", "gc",
    "generalcategory", "gcb", "graphemeclusterbreak", "hst", "hangulsyllabletype", "incb",
    "indicconjunctbreak", "inpc", "indicpositionalcategory", "insc", "indicsyllabiccategory",
    "jg", "joininggroup", "jt", "joiningtype", "lb", "linebreak", "nfcqc", "nfcquickcheck",
    "nfdqc", "nfdquickcheck", "nfkcqc", "nfkcquickcheck", "nfkdqc", "nfkdquickcheck", "nt",
    "numerictype", "sb", "sentencebreak", "vo", "verticalorientation", "wb", "wordbreak"]

/-- Properties that hold or do not. -/
def binaryNames : List String :=
  ["ahex", "asciihexdigit", "alpha", "alphabetic", "bidic", "bidicontrol", "bidim",
    "bidimirrored", "cased", "ce", "compositionexclusion", "ci", "caseignorable", "compex",
    "fullcompositionexclusion", "cwcf", "changeswhencasefolded", "cwcm", "changeswhencasemapped",
    "cwkcf", "changeswhennfkccasefolded", "cwl", "changeswhenlowercased", "cwt",
    "changeswhentitlecased", "cwu", "changeswhenuppercased", "dash", "dep", "deprecated", "di",
    "defaultignorablecodepoint", "dia", "diacritic", "ebase", "emojimodifierbase", "ecomp",
    "emojicomponent", "emod", "emojimodifier", "emoji", "epres", "emojipresentation", "ext",
    "extender", "extpict", "extendedpictographic", "grbase", "graphemebase", "grext",
    "graphemeextend", "grlink", "graphemelink", "hex", "hexdigit", "hyphen",
    "idcompatmathcontinue", "idcompatmathstart", "idc", "idcontinue", "ideo", "ideographic",
    "ids", "idstart", "idsb", "idsbinaryoperator", "idst", "idstrinaryoperator", "idsu",
    "idsunaryoperator", "joinc", "joincontrol", "kehnomirror", "kehnorotate", "loe",
    "logicalorderexception", "lower", "lowercase", "math", "mcm", "modifiercombiningmark",
    "nchar", "noncharactercodepoint", "oalpha", "otheralphabetic", "odi",
    "otherdefaultignorablecodepoint", "ogrext", "othergraphemeextend", "oidc", "otheridcontinue",
    "oids", "otheridstart", "olower", "otherlowercase", "omath", "othermath", "oupper",
    "otheruppercase", "patsyn", "patternsyntax", "patws", "patternwhitespace", "pcm",
    "prependedconcatenationmark", "qmark", "quotationmark", "radical", "ri", "regionalindicator",
    "sd", "softdotted", "sterm", "sentenceterminal", "term", "terminalpunctuation", "uideo",
    "unifiedideograph", "upper", "uppercase", "vs", "variationselector", "wspace", "whitespace",
    "space", "xidc", "xidcontinue", "xids", "xidstart", "xonfc", "expandsonnfc", "xonfd",
    "expandsonnfd", "xonfkc", "expandsonnfkc", "xonfkd", "expandsonnfkd"]

def propertyNames : List String :=
  numericNames ++ textNames ++ sundryNames ++ listedNames ++ binaryNames

inductive PropertyQuery
  | named (name : Text)
  | valued (property : Text) (value : Text)
deriving DecidableEq

inductive LookupError
  | unknownProperty
  | unknownValue
deriving DecidableEq

abbrev NameTable := List (List String × CharSet)

def NameTable.charSet? (table : NameTable) (name : String) : Option CharSet :=
  (List.find? (fun row => row.1.contains name) table).map (·.2)

/-- Of the properties that hold or do not, the five that have a table. The other names of
`binaryNames` are known for properties, and no set of characters is found for them. -/
def binaryProperties : NameTable :=
  [(["alphabetic", "alpha"], alphabetic), (["lowercase", "lower"], lowercase),
    (["uppercase", "upper"], uppercase), (["whitespace", "wspace", "space"], whiteSpace),
    (["joincontrol", "joinc"], joinControl)]

def generalCategories : NameTable :=
  [(["any"], .any), (["assigned"], unassigned.complement), (["ascii"], .ascii),
    (["l", "letter"], letter), (["lc", "casedletter"], casedLetter),
    (["lu", "uppercaseletter"], uppercaseLetter), (["ll", "lowercaseletter"], lowercaseLetter),
    (["lt", "titlecaseletter"], titlecaseLetter), (["lm", "modifierletter"], modifierLetter),
    (["lo", "otherletter"], otherLetter),
    (["m", "mark", "combiningmark"], mark), (["mn", "nonspacingmark"], nonspacingMark),
    (["mc", "spacingmark"], spacingMark), (["me", "enclosingmark"], enclosingMark),
    (["n", "number"], number), (["nd", "decimalnumber", "digit"], decimalNumber),
    (["nl", "letternumber"], letterNumber), (["no", "othernumber"], otherNumber),
    (["p", "punctuation", "punct"], punctuation),
    (["pc", "connectorpunctuation"], connectorPunctuation),
    (["pd", "dashpunctuation"], dashPunctuation), (["ps", "openpunctuation"], openPunctuation),
    (["pe", "closepunctuation"], closePunctuation),
    (["pi", "initialpunctuation"], initialPunctuation),
    (["pf", "finalpunctuation"], finalPunctuation), (["po", "otherpunctuation"], otherPunctuation),
    (["s", "symbol"], symbol), (["sm", "mathsymbol"], mathSymbol),
    (["sc", "currencysymbol"], currencySymbol), (["sk", "modifiersymbol"], modifierSymbol),
    (["so", "othersymbol"], otherSymbol),
    (["z", "separator"], separator), (["zs", "spaceseparator"], spaceSeparator),
    (["zl", "lineseparator"], lineSeparator), (["zp", "paragraphseparator"], paragraphSeparator),
    (["c", "other"], other), (["cc", "control", "cntrl"], control), (["cf", "format"], format),
    (["co", "privateuse"], privateUse), (["cn", "unassigned"], unassigned)]

/-- Of the scripts, the two that have a table. Any other script is not found, like a name that there
is not. -/
def scripts : NameTable := [(["greek", "grek"], greek), (["latin", "latn"], latin)]

def scriptExtensions : NameTable :=
  [(["greek", "grek"], greekExtended), (["latin", "latn"], latinExtended)]

/-- Categories and scripts that have a name but no characters: surrogates are none, and a character
has one known script. -/
def emptyNames : List String :=
  ["cs", "surrogate", "zzzz", "unknown", "hrkt", "katakanaorhiragana"]

/-- Names are compared without case, spaces, hyphens, underscores and a leading "is"; "isc" is no
spelling of "c". -/
def looseName (t : Text) : String :=
  let (marked, body) := match t with
    | a :: b :: r => if a.toLower = 'i' ∧ b.toLower = 's' then (true, r) else (false, t)
    | _ => (false, t)
  let name := body.filter fun c => c.toNat ≤ 0x7F ∧ c ≠ ' ' ∧ c ≠ '_' ∧ c ≠ '-'
  let name := String.ofList (name.map Char.toLower)
  if marked ∧ name = "c" then "isc" else name

/-- The values of a property, if there is such a property. Those that are told by number, text or
yes and no have none here, and no more have ages, blocks, the classes of grapheme, word and sentence
breaks and all else of `listedNames` that is no category and no script. -/
def valuesOf? (property : String) : Option NameTable :=
  if property = "gc" ∨ property = "generalcategory" then some generalCategories
  else if property = "sc" ∨ property = "script" then some scripts
  else if property = "scx" ∨ property = "scriptextensions" then some scriptExtensions
  else if property ∈ propertyNames then some []
  else none

/-- A name alone is read as a binary property, then a general category, then a script. One that
names no characters is a value that is not found. -/
def PropertyQuery.charSet : PropertyQuery → Except LookupError CharSet
  | named name =>
    let table : NameTable := binaryProperties ++ generalCategories ++ scripts
    match table.charSet? (looseName name) with
    | some s => .ok s
    | none =>
      if looseName name ∈ emptyNames then .error .unknownValue else .error .unknownProperty
  | valued property value =>
    match valuesOf? (looseName property) with
    | none => .error .unknownProperty
    | some table =>
      match table.charSet? (looseName value) with
      | some s => .ok s
      | none => .error .unknownValue

end RegexExplainer.Unicode
