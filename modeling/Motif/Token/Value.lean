/-!
# Property values (specification E2)

A property of a token is a flag, a number or a text. The three are never equal to one another, but
each has a text, which is what patterns compare with.

`asText` and `isSet` are the calls `as_text` and `is_set`. Out of scope: conversions into property
values, which wrap what they are given.
-/

namespace Motif.Token

/-- The value of a property. -/
inductive Value where
  | flag (b : Bool)
  | number (n : Int64)
  | text (s : String)
  deriving DecidableEq

namespace Value

/-- The text of a value: a number in decimal notation, a flag as `true` or `false`. -/
def asText : Value → String
  | flag true => "true"
  | flag false => "false"
  | number n => toString n.toInt
  | text s => s

/-- Whether the value counts as present: all do but the flag `false`. -/
def isSet (v : Value) : Bool :=
  v != flag false

end Value

end Motif.Token
