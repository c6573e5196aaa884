import Motif.Regex.Engine
import Motif.Regex.Match
import Motif.Regex.Parse
import Motif.Regex.Size
import Motif.Text.PropertyName

/-!
# The engine that is used to run

An expression is built if it is well formed (`Motif.Regex.Parse`) and not too large
(`Motif.Regex.Size`), and a text is searched with `Motif.Regex.Match`. The properties that an
expression may name are those of `Motif.Text.PropertyName`.

What is proved of patterns does not depend on this engine. It holds of any, or where it matters what
an engine does, of any that is lawful (`Motif.Proofs.Regex.Lawful`); this one serves to run
patterns, and where an expression is given.
-/

namespace Motif.Regex

/-- The engine that is used to run. -/
instance engine : RegexEngine where
  Compiled := Regex
  build? o e := (parse? { toRegexOptions := o } e.toList).filter (·.isWithinLimit)
  isMatch r text := r.isMatch text.toList

end Motif.Regex
