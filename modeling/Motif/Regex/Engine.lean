/-!
# Engines for regular expressions (specification E1.5, E3)

Values are compared with regular expressions by an engine, which is taken as given: it builds an
expression from a text and modes, or refuses to, and then says of any text whether the expression
matches in it. Nothing else of an engine is used.

Out of scope: why an engine refuses an expression. The engine that is used to run is in
`Motif.Regex.Standard`.
-/

namespace Motif

/-- The modes that an expression is built under. -/
structure RegexOptions where
  ignoreCase : Bool := false
  multiLine : Bool := false
  dotAll : Bool := false
  freeForm : Bool := false
  deriving DecidableEq

/-- An engine for regular expressions. -/
class RegexEngine where
  /-- Expressions that have been built. -/
  Compiled : Type
  /-- Builds an expression, unless it is refused. -/
  build? : RegexOptions → (expression : String) → Option Compiled
  /-- Whether an expression matches some part of a text. -/
  isMatch : Compiled → (text : String) → Bool

end Motif
