import Motif.Text.CodePointSet

/-!
# Tables of properties

Regular expressions call sets of characters by the names of properties, as in `\p{Greek}`. Which
names there are is a matter of the tables that an engine comes with, and each edition of them has
more: reading an expression takes them as given. All that it relies on is that names are made of
letters, digits, blanks, hyphens and underscores, so that no property is called by a closing
parenthesis or a line feed.

Out of scope: what the names stand for. The tables that are used to run are in
`Motif.Text.PropertyName`.
-/

namespace Motif.Text

/-- The sets of characters that are called by the names of properties. -/
class PropertyTables where
  /-- The set that a name alone stands for. -/
  named? : (name : List Char) → Option CodePointSet
  /-- The set of the characters for which a property has a value. -/
  valued? : (property value : List Char) → Option CodePointSet
  named?_paren : named? [')'] = none
  named?_lineFeed : named? ['\n'] = none

end Motif.Text
