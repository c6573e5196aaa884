import Motif.Text.Property

/-!
# Words

The characters that words are made of: letters, marks, decimal digits, connecting punctuation and
the two joiners. Within ASCII these are letters, digits and the underscore.
-/

namespace Motif.Text

/-- The characters that words are made of. -/
def word : CodePointSet :=
  .unions [alphabeticCharacters, marks, decimalNumbers, connectorPunctuation, joinControls]

/-- The decimal digits of ASCII. -/
def asciiDecimal : CodePointSet :=
  ⟨#[0x30, 0x3A]⟩

/-- The characters of ASCII that words are made of. -/
def asciiWord : CodePointSet :=
  ⟨#[0x30, 0x3A, 0x41, 0x5B, 0x5F, 0x60, 0x61, 0x7B]⟩

end Motif.Text
