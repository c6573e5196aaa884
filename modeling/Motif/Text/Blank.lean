import Motif.Text.CodePointSet

/-!
# Blank characters

The characters that count as white space, in patterns and in regular expressions alike: the
White_Space property of the Unicode character database.

* `isBlank_of_isWhitespace`: white space of the ASCII range is blank.
-/

namespace Motif.Text

/-- The runs of white space. -/
def blankRuns : List (Nat × Nat) :=
  [(0x9, 0xD), (0x20, 0x20), (0x85, 0x85), (0xA0, 0xA0), (0x1680, 0x1680), (0x2000, 0x200A),
    (0x2028, 0x2029), (0x202F, 0x202F), (0x205F, 0x205F), (0x3000, 0x3000)]

/-- White space. -/
def isBlank (c : Char) : Bool :=
  blankRuns.any fun (lo, hi) => lo ≤ c.toNat && c.toNat ≤ hi

/-- The set of white space. -/
def blank : CodePointSet :=
  .ofRuns blankRuns

/-- The white space of ASCII. -/
def asciiBlank : CodePointSet :=
  .ofRuns (blankRuns.take 2)

theorem isBlank_of_isWhitespace {c : Char} (h : c.isWhitespace = true) : isBlank c = true := by
  simp only [Char.isWhitespace, Bool.or_eq_true, decide_eq_true_eq] at h
  rcases h with ((rfl | rfl) | rfl) | rfl <;> rfl

end Motif.Text
