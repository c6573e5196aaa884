import Motif.Text.Blank
import Motif.Text.Property
import Motif.Text.PropertyTables
import Motif.Text.Script

/-!
# Names of properties

The names by which general categories, scripts and other properties of characters are called: the
tables that are used to run.

They lack the values of `age`, `scx`, `gcb`, `wb` and `sb`, and of the properties that a character
has or has not all but those of `binaryProperties`, such as `Diacritic`, `Extended_Pictographic`,
`Case_Ignorable` and `Default_Ignorable_Code_Point`. Expressions that name them are refused.
-/

namespace Motif.Text

/-- The general categories and their groups, and three sets that are named like them. -/
def generalCategories : List NamedSet :=
  [⟨["any"], .all⟩, ⟨["assigned"], assigned⟩, ⟨["ascii"], ⟨#[0x0, 0x80]⟩⟩,
    ⟨["l", "letter"], letters⟩, ⟨["lc", "casedletter"], casedLetters⟩,
    ⟨["lu", "uppercaseletter"], uppercaseLetters⟩, ⟨["ll", "lowercaseletter"], lowercaseLetters⟩,
    ⟨["lt", "titlecaseletter"], titlecaseLetters⟩, ⟨["lm", "modifierletter"], modifierLetters⟩,
    ⟨["lo", "otherletter"], otherLetters⟩,
    ⟨["m", "mark", "combiningmark"], marks⟩, ⟨["mn", "nonspacingmark"], nonspacingMarks⟩,
    ⟨["mc", "spacingmark"], spacingMarks⟩, ⟨["me", "enclosingmark"], enclosingMarks⟩,
    ⟨["n", "number"], numbers⟩, ⟨["nd", "decimalnumber", "digit"], decimalNumbers⟩,
    ⟨["nl", "letternumber"], letterNumbers⟩, ⟨["no", "othernumber"], otherNumbers⟩,
    ⟨["p", "punctuation", "punct"], punctuation⟩,
    ⟨["pc", "connectorpunctuation"], connectorPunctuation⟩,
    ⟨["pd", "dashpunctuation"], dashPunctuation⟩, ⟨["ps", "openpunctuation"], openPunctuation⟩,
    ⟨["pe", "closepunctuation"], closePunctuation⟩,
    ⟨["pi", "initialpunctuation"], initialPunctuation⟩,
    ⟨["pf", "finalpunctuation"], finalPunctuation⟩,
    ⟨["po", "otherpunctuation"], otherPunctuation⟩,
    ⟨["s", "symbol"], symbols⟩, ⟨["sm", "mathsymbol"], mathSymbols⟩,
    ⟨["sc", "currencysymbol"], currencySymbols⟩, ⟨["sk", "modifiersymbol"], modifierSymbols⟩,
    ⟨["so", "othersymbol"], otherSymbols⟩,
    ⟨["z", "separator"], separators⟩, ⟨["zs", "spaceseparator"], spaceSeparators⟩,
    ⟨["zl", "lineseparator"], lineSeparators⟩, ⟨["zp", "paragraphseparator"], paragraphSeparators⟩,
    ⟨["c", "other"], others⟩, ⟨["cc", "control", "cntrl"], controls⟩,
    ⟨["cf", "format"], formats⟩, ⟨["co", "privateuse"], privateUse⟩,
    ⟨["cn", "unassigned"], unassigned⟩]

/-- Properties that a character has or has not. -/
def binaryProperties : List NamedSet :=
  [⟨["alpha", "alphabetic"], alphabeticCharacters⟩, ⟨["lower", "lowercase"], lowercaseCharacters⟩,
    ⟨["upper", "uppercase"], uppercaseCharacters⟩, ⟨["cased"], casedCharacters⟩,
    ⟨["wspace", "whitespace", "space"], blank⟩, ⟨["joinc", "joincontrol"], joinControls⟩,
    ⟨["ids", "idstart"], identifierStart⟩, ⟨["idc", "idcontinue"], identifierPart⟩,
    ⟨["xids", "xidstart"], stableIdentifierStart⟩,
    ⟨["xidc", "xidcontinue"], stableIdentifierPart⟩,
    ⟨["math"], mathCharacters⟩, ⟨["dash"], dashes⟩, ⟨["qmark", "quotationmark"], quotationMarks⟩,
    ⟨["hex", "hexdigit"], hexDigits⟩, ⟨["ahex", "asciihexdigit"], asciiHexDigits⟩,
    ⟨["ideo", "ideographic"], ideographs⟩, ⟨["uideo", "unifiedideograph"], unifiedIdeographs⟩,
    ⟨["emoji"], emoji⟩, ⟨["epres", "emojipresentation"], emojiPresentation⟩,
    ⟨["emod", "emojimodifier"], emojiModifiers⟩,
    ⟨["ebase", "emojimodifierbase"], emojiModifierBases⟩,
    ⟨["ecomp", "emojicomponent"], emojiComponents⟩,
    ⟨["ri", "regionalindicator"], regionalIndicators⟩,
    ⟨["vs", "variationselector"], variationSelectors⟩]

/-- The set that a name alone stands for: a property, a category or a script. -/
def propertyNamed? (name : List Char) : Option CodePointSet :=
  let name := looseName name
  ((NamedSet.find? binaryProperties name).or (NamedSet.find? generalCategories name)).or
    (NamedSet.find? scripts name)

/-- The set of the characters for which a property has a value. -/
def propertyValued? (property value : List Char) : Option CodePointSet :=
  match looseName property with
  | "gc" | "generalcategory" => NamedSet.find? generalCategories (looseName value)
  | "sc" | "script" => NamedSet.find? scripts (looseName value)
  | _ => none

/-- The tables of general categories, scripts and common properties. -/
instance commonProperties : PropertyTables where
  named? := propertyNamed?
  valued? := propertyValued?
  named?_paren := by
    rw [← Option.isNone_iff_eq_none]
    decide +kernel
  named?_lineFeed := by
    rw [← Option.isNone_iff_eq_none]
    decide +kernel

end Motif.Text
