import ProxyRouting.Regex.Ast
import ProxyRouting.Unicode.Age
import ProxyRouting.Unicode.Boundary
import ProxyRouting.Unicode.Identifier
import ProxyRouting.Unicode.Script

/-!
# Properties by name

Which characters `\p` with a name stands for.  Names are compared loosely: case, blanks, hyphens,
underscores and a leading `is` do not matter (`looseName`).

A single name is that of a yes-or-no property, of a general category or of a script, in that order;
with a value, the name may be that of a category, script, age or boundary class.  Names of other
properties are known as names, but have no characters: `propertyNames` lists them.
-/

namespace ProxyRouting.Regex

open Unicode

/-! ## Names -/

/-- A name without what does not matter in it.  The short name `isc` keeps its start, lest it be
taken for `c`. -/
def looseName (name : List Char) : List Char :=
  let (isPrefixed, rest) :=
    match name with
    | a :: b :: rest =>
      if (a == 'i' || a == 'I') && (b == 's' || b == 'S') then (true, rest) else (false, name)
    | _ => (false, name)
  let kept := (rest.filter fun c =>
    c.toNat < 0x80 && c != ' ' && c != '_' && c != '-').map Char.toLower
  if isPrefixed && kept == ['c'] then ['i', 's', 'c'] else kept

/-- Finds the entry one of whose names is the given one. -/
def findNamed {α : Type} (table : List (List String × α)) (name : List Char) : Option α :=
  (table.find? fun e => e.1.any fun n => looseName n.toList == name).map Prod.snd

/-! ## General categories -/

/-- Categories and groups of them: short name, other names, and the two-letter codes meant. -/
def categoryNames : List (List String × List String) := [
  (["C", "Other"], ["Cc", "Cf", "Cn", "Co"]),
  (["Cc", "Control", "cntrl"], ["Cc"]),
  (["Cf", "Format"], ["Cf"]),
  (["Cn", "Unassigned"], ["Cn"]),
  (["Co", "Private_Use"], ["Co"]),
  (["L", "Letter"], ["Lu", "Ll", "Lt", "Lm", "Lo"]),
  (["LC", "Cased_Letter"], ["Lu", "Ll", "Lt"]),
  (["Ll", "Lowercase_Letter"], ["Ll"]),
  (["Lm", "Modifier_Letter"], ["Lm"]),
  (["Lo", "Other_Letter"], ["Lo"]),
  (["Lt", "Titlecase_Letter"], ["Lt"]),
  (["Lu", "Uppercase_Letter"], ["Lu"]),
  (["M", "Mark", "Combining_Mark"], ["Mn", "Mc", "Me"]),
  (["Mc", "Spacing_Mark"], ["Mc"]),
  (["Me", "Enclosing_Mark"], ["Me"]),
  (["Mn", "Nonspacing_Mark"], ["Mn"]),
  (["N", "Number"], ["Nd", "Nl", "No"]),
  (["Nd", "Decimal_Number", "digit"], ["Nd"]),
  (["Nl", "Letter_Number"], ["Nl"]),
  (["No", "Other_Number"], ["No"]),
  (["P", "Punctuation", "punct"], ["Pc", "Pd", "Pe", "Pf", "Pi", "Po", "Ps"]),
  (["Pc", "Connector_Punctuation"], ["Pc"]),
  (["Pd", "Dash_Punctuation"], ["Pd"]),
  (["Pe", "Close_Punctuation"], ["Pe"]),
  (["Pf", "Final_Punctuation"], ["Pf"]),
  (["Pi", "Initial_Punctuation"], ["Pi"]),
  (["Po", "Other_Punctuation"], ["Po"]),
  (["Ps", "Open_Punctuation"], ["Ps"]),
  (["S", "Symbol"], ["Sc", "Sk", "Sm", "So"]),
  (["Sc", "Currency_Symbol"], ["Sc"]),
  (["Sk", "Modifier_Symbol"], ["Sk"]),
  (["Sm", "Math_Symbol"], ["Sm"]),
  (["So", "Other_Symbol"], ["So"]),
  (["Z", "Separator"], ["Zl", "Zp", "Zs"]),
  (["Zl", "Line_Separator"], ["Zl"]),
  (["Zp", "Paragraph_Separator"], ["Zp"]),
  (["Zs", "Space_Separator"], ["Zs"])]

/-- The set of a category: `any`, `assigned` and `ascii` count as such; `none` if there is no such
category.  Surrogates have a name and no characters. -/
def categorySet? (name : List Char) : Option (Except Fault CodeSet) :=
  if name == "any".toList then some (.ok .full)
  else if name == "assigned".toList then some (.ok (category ["Cn"]).complement)
  else if name == "ascii".toList then some (.ok (.ofRanges [(0, 0x7F)]))
  else if name == "cs".toList || name == "surrogate".toList then
    some (.error .propertyValueUnknown)
  else (findNamed categoryNames name).map fun codes => .ok (category codes)

/-! ## Scripts and classes -/

/-- The code of a script, from its code or name.  Two scripts have a second code. -/
def scriptCode? (name : List Char) : Option String :=
  if name == "qaac".toList then some "Copt"
  else if name == "qaai".toList then some "Zinh"
  else
    (scriptNames.find? fun e =>
      looseName e.1.toList == name || looseName e.2.toList == name).map Prod.fst

/-- The versions by name: `3.2` or `V3_2`. -/
def versionOf? (name : List Char) : Option String :=
  versions.find? fun v =>
    let short := if v.startsWith "0" then (v.toList.drop 1) else v.toList
    name == short || name == 'v' :: short.filter (· != '.')

def graphemeClasses : List (List String × String) := [
  (["CN", "Control"], "CN"), (["CR"], "CR"), (["EX", "Extend"], "EX"), (["L"], "L_"),
  (["LF"], "LF"), (["LV"], "LV"), (["LVT"], "LVT"), (["PP", "Prepend"], "PP"),
  (["RI", "Regional_Indicator"], "RI"), (["SM", "SpacingMark"], "SM"), (["T"], "T_"),
  (["V"], "V_"), (["ZWJ"], "ZW")]

def wordClasses : List (List String × String) := [
  (["CR"], "CR"), (["DQ", "Double_Quote"], "DQ"), (["EX", "ExtendNumLet"], "EN"),
  (["Extend"], "EX"), (["FO", "Format"], "FO"), (["HL", "Hebrew_Letter"], "HL"),
  (["KA", "Katakana"], "KA"), (["LE", "ALetter"], "LE"), (["LF"], "LF"),
  (["MB", "MidNumLet"], "MB"), (["ML", "MidLetter"], "ML"), (["MN", "MidNum"], "MN"),
  (["NL", "Newline"], "NL"), (["NU", "Numeric"], "NU"), (["RI", "Regional_Indicator"], "RI"),
  (["SQ", "Single_Quote"], "SQ"), (["WSegSpace"], "WS"), (["ZWJ"], "ZW")]

def sentenceClasses : List (List String × String) := [
  (["AT", "ATerm"], "AT"), (["CL", "Close"], "CL"), (["CR"], "CR"), (["EX", "Extend"], "EX"),
  (["FO", "Format"], "FO"), (["LE", "OLetter"], "LE"), (["LF"], "LF"), (["LO", "Lower"], "LO"),
  (["NU", "Numeric"], "NU"), (["SC", "SContinue"], "SC"), (["SE", "Sep"], "SE"),
  (["SP", "Sp"], "SP"), (["ST", "STerm"], "ST"), (["UP", "Upper"], "UP")]

/-! ## Yes-or-no properties -/

/-- The properties that have a set, each behind a function so that only the one asked for is
built. -/
def binaryProperties : List (List String × (Unit → CodeSet)) := [
  (["AHex", "ASCII_Hex_Digit"], fun _ => asciiHexDigit),
  (["Alpha", "Alphabetic"], fun _ => alphabetic),
  (["Bidi_C", "Bidi_Control"], fun _ => bidiControl),
  (["Bidi_M", "Bidi_Mirrored"], fun _ => bidiMirrored),
  (["CI", "Case_Ignorable"], fun _ => caseIgnorable),
  (["Cased"], fun _ => cased),
  (["CWCF", "Changes_When_Casefolded"], fun _ => changesWhenCasefolded),
  (["CWCM", "Changes_When_Casemapped"], fun _ => changesWhenCasemapped),
  (["CWL", "Changes_When_Lowercased"], fun _ => changesWhenLowercased),
  (["CWT", "Changes_When_Titlecased"], fun _ => changesWhenTitlecased),
  (["CWU", "Changes_When_Uppercased"], fun _ => changesWhenUppercased),
  (["Dash"], fun _ => dash),
  (["Dep", "Deprecated"], fun _ => deprecated),
  (["DI", "Default_Ignorable_Code_Point"], fun _ => defaultIgnorable),
  (["Dia", "Diacritic"], fun _ => diacritic),
  (["Emoji"], fun _ => emoji),
  (["EComp", "Emoji_Component"], fun _ => emojiComponent),
  (["EMod", "Emoji_Modifier"], fun _ => emojiModifier),
  (["EBase", "Emoji_Modifier_Base"], fun _ => emojiModifierBase),
  (["EPres", "Emoji_Presentation"], fun _ => emojiPresentation),
  (["ExtPict", "Extended_Pictographic"], fun _ => extendedPictographic),
  (["Ext", "Extender"], fun _ => extender),
  (["Gr_Base", "Grapheme_Base"], fun _ => graphemeBase),
  (["Gr_Ext", "Grapheme_Extend"], fun _ => graphemeExtend),
  (["Gr_Link", "Grapheme_Link"], fun _ => viramas),
  (["Hex", "Hex_Digit"], fun _ => hexDigit),
  (["Hyphen"], fun _ => hyphen),
  (["IDC", "ID_Continue"], fun _ => identifierContinue),
  (["IDS", "ID_Start"], fun _ => identifierStart),
  (["IDSB", "IDS_Binary_Operator"], fun _ => ideographBinary),
  (["IDST", "IDS_Trinary_Operator"], fun _ => ideographTrinary),
  (["IDSU", "IDS_Unary_Operator"], fun _ => ideographUnary),
  (["Ideo", "Ideographic"], fun _ => ideographic),
  (["Join_C", "Join_Control"], fun _ => joinControl),
  (["LOE", "Logical_Order_Exception"], fun _ => logicalOrderException),
  (["Lower", "Lowercase"], fun _ => lowercase),
  (["Math"], fun _ => math),
  (["NChar", "Noncharacter_Code_Point"], fun _ => noncharacter),
  (["OAlpha", "Other_Alphabetic"], fun _ => alphabeticMarks),
  (["OGr_Ext", "Other_Grapheme_Extend"], fun _ => graphemeExtendOthers),
  (["OIDC", "Other_ID_Continue"], fun _ => continueOthers),
  (["OIDS", "Other_ID_Start"], fun _ => startOthers),
  (["OLower", "Other_Lowercase"], fun _ => lowercaseSymbols),
  (["OMath", "Other_Math"], fun _ => mathOthers),
  (["OUpper", "Other_Uppercase"], fun _ => uppercaseSymbols),
  (["Pat_Syn", "Pattern_Syntax"], fun _ => patternMarks),
  (["Pat_WS", "Pattern_White_Space"], fun _ => patternBlanks),
  (["PCM", "Prepended_Concatenation_Mark"], fun _ => prependedConcatenationMark),
  (["QMark", "Quotation_Mark"], fun _ => quotationMark),
  (["Radical"], fun _ => radical),
  (["RI", "Regional_Indicator"], fun _ => regionalIndicator),
  (["SD", "Soft_Dotted"], fun _ => softDotted),
  (["STerm", "Sentence_Terminal"], fun _ => sentenceTerminal),
  (["Term", "Terminal_Punctuation"], fun _ => terminalPunctuation),
  (["UIdeo", "Unified_Ideograph"], fun _ => unifiedIdeograph),
  (["Upper", "Uppercase"], fun _ => uppercase),
  (["VS", "Variation_Selector"], fun _ => variationSelector),
  (["space", "White_Space", "WSpace"], fun _ => whiteSpace),
  (["XIDC", "XID_Continue"], fun _ => stableIdentifierContinue),
  (["XIDS", "XID_Start"], fun _ => stableIdentifierStart)]

/-- Other properties, by the names that no category or script has. -/
def propertyNames : List String := [
  "age", "bc", "Bidi_Class", "blk", "Block", "bmg", "Bidi_Mirroring_Glyph", "bpb",
  "Bidi_Paired_Bracket", "bpt", "Bidi_Paired_Bracket_Type", "Case_Folding", "ccc",
  "Canonical_Combining_Class", "CE", "Composition_Exclusion", "Comp_Ex",
  "Full_Composition_Exclusion", "CWKCF", "Changes_When_NFKC_Casefolded", "dm",
  "Decomposition_Mapping", "dt", "Decomposition_Type", "ea", "East_Asian_Width", "EqUIdeo",
  "Equivalent_Unified_Ideograph", "FC_NFKC", "FC_NFKC_Closure", "gc", "General_Category", "GCB",
  "Grapheme_Cluster_Break", "hst", "Hangul_Syllable_Type", "ID_Compat_Math_Continue",
  "ID_Compat_Math_Start", "InCB", "Indic_Conjunct_Break", "InPC", "Indic_Positional_Category",
  "InSC", "Indic_Syllabic_Category", "isc", "ISO_Comment", "jg", "Joining_Group", "JSN",
  "Jamo_Short_Name", "jt", "Joining_Type", "lb", "Line_Break", "Lowercase_Mapping", "MCM",
  "Modifier_Combining_Mark", "na", "Name", "na1", "Unicode_1_Name", "Name_Alias", "NFC_QC",
  "NFC_Quick_Check", "NFD_QC", "NFD_Quick_Check", "NFKC_CF", "NFKC_Casefold", "NFKC_QC",
  "NFKC_Quick_Check", "NFKC_SCF", "NFKC_Simple_Casefold", "NFKD_QC", "NFKD_Quick_Check", "nt",
  "Numeric_Type", "nv", "Numeric_Value", "ODI", "Other_Default_Ignorable_Code_Point", "SB",
  "Sentence_Break", "scf", "Simple_Case_Folding", "sfc", "Script", "scx", "Script_Extensions",
  "slc", "Simple_Lowercase_Mapping", "stc", "Simple_Titlecase_Mapping", "suc",
  "Simple_Uppercase_Mapping", "tc", "Titlecase_Mapping", "uc", "Uppercase_Mapping", "vo",
  "Vertical_Orientation", "WB", "Word_Break", "XO_NFC", "Expands_On_NFC", "XO_NFD",
  "Expands_On_NFD", "XO_NFKC", "Expands_On_NFKC", "XO_NFKD", "Expands_On_NFKD",
  "cjkAccountingNumeric", "kAccountingNumeric", "cjkOtherNumeric", "kOtherNumeric",
  "cjkPrimaryNumeric", "kPrimaryNumeric", "cjkCompatibilityVariant", "kCompatibilityVariant",
  "cjkIICore", "kIICore", "cjkRSUnicode", "kRSUnicode", "Unicode_Radical_Stroke", "URS"]

def isPropertyName (name : List Char) : Bool :=
  propertyNames.any fun n => looseName n.toList == name

/-! ## Look-up -/

/-- The characters meant by a name alone.  The names `cf`, `sc` and `lc` are those of categories. -/
def singleSet (name : List Char) : Except Fault CodeSet :=
  let isCategory := name == "cf".toList || name == "sc".toList || name == "lc".toList
  let byCategory : Except Fault CodeSet :=
    match categorySet? name with
    | some characters => characters
    | none =>
      match scriptCode? name with
      | some code => .ok (script code)
      | none => .error .propertyUnknown
  if isCategory then byCategory
  else
    match findNamed binaryProperties name with
    | some characters => .ok (characters ())
    | none => if isPropertyName name then .error .propertyUnknown else byCategory

/-- The characters for which a property has a value. -/
def valuedSet (name value : List Char) : Except Fault CodeSet :=
  let isOneOf (names : List String) := names.any fun n => looseName n.toList == name
  let known {α : Type} (found : Option α) (set : α → CodeSet) : Except Fault CodeSet :=
    match found with
    | some x => .ok (set x)
    | none => .error .propertyValueUnknown
  if isOneOf ["gc", "General_Category"] then
    (categorySet? value).getD (.error .propertyValueUnknown)
  else if isOneOf ["sc", "Script"] then known (scriptCode? value) script
  else if isOneOf ["scx", "Script_Extensions"] then known (scriptCode? value) scriptExtension
  else if isOneOf ["age"] then known (versionOf? value) assignedBy
  else if isOneOf ["GCB", "Grapheme_Cluster_Break"] then
    known (findNamed graphemeClasses value) graphemeClass
  else if isOneOf ["WB", "Word_Break"] then known (findNamed wordClasses value) wordClass
  else if isOneOf ["SB", "Sentence_Break"] then
    known (findNamed sentenceClasses value) sentenceClass
  else if isPropertyName name || (findNamed binaryProperties name).isSome ||
      isOneOf ["cf", "lc"] then .error .propertyValueUnknown
  else .error .propertyUnknown

/-- The characters meant by a property as it was named. -/
def PropertyName.set : PropertyName → Except Fault CodeSet
  | single name => singleSet (looseName name)
  | valued name value => valuedSet (looseName name) (looseName value)

end ProxyRouting.Regex
