/-!
# Faults in a pattern (specification §7, E1.1)

The ways in which the text of a pattern can be wrong. A fault knows the byte index of the fragment
it is about; together with the text of the pattern it has a message.

`Fault.index` is the call `index` of a `PatternError`, and `Fault.message` is how it is displayed.

Out of scope: the reason for which an engine refuses an expression, with which the message for that
fault would end.
-/

namespace Motif.Pattern

/-- The two kinds of brackets: a group stands in parentheses, an alternation in square brackets. -/
inductive Bracket where
  | group
  | alternation
  deriving DecidableEq, Repr

namespace Bracket

/-- The opening bracket. -/
def opening : Bracket → Char
  | group => '('
  | alternation => '['

/-- The closing bracket. -/
def closing : Bracket → Char
  | group => ')'
  | alternation => ']'

end Bracket

/-- What is wrong with a repetition range. -/
inductive RangeFault where
  | tooLarge
  | noCount
  | notDecimal
  | emptyUpTo
  | reversed
  deriving DecidableEq, Repr

/-- The reason given for a bad range. -/
def RangeFault.reason : RangeFault → String
  | tooLarge => "bound is too large"
  | noCount => "a repetition count is required"
  | notDecimal => "bounds must be decimal numbers"
  | emptyUpTo => "upper bound must be at least 1"
  | reversed => "lower bound exceeds upper bound"

/-- What can be wrong with a pattern, and where. -/
inductive Fault where
  | emptyPattern
  | emptyGroup (start : Nat)
  | emptyAlternation (start : Nat)
  | unclosedBracket (bracket : Bracket) (start : Nat)
  | unexpectedClosing (found : Bracket) (index : Nat)
  | mismatchedClosing (expected found : Bracket) (index : Nat)
  | unclosedText (start : Nat)
  | unknownEscape (escape : Char) (index : Nat)
  | loneEscape (index : Nat)
  | unclosedRegex (start : Nat)
  | unknownRegexFlag (flag : Char) (index : Nat)
  | invalidRegex (source : String) (index : Nat)
  | unknownKind (found : String) (index : Nat)
  | emptyName (index : Nat)
  | missingValue (name : String) (index : Nat)
  | danglingQuantifier (modifier : Char) (index : Nat)
  | invalidRange (fault : RangeFault) (index : Nat)
  | unclosedRange (start : Nat)
  | danglingNegation (index : Nat)
  | tooDeep (index : Nat)
  deriving DecidableEq, Repr

namespace Fault

/-- The byte index of the fragment that a fault is about. -/
def index : Fault → Nat
  | emptyPattern => 0
  | emptyGroup i | emptyAlternation i | unclosedBracket _ i | unexpectedClosing _ i
  | mismatchedClosing _ _ i | unclosedText i | unknownEscape _ i | loneEscape i | unclosedRegex i
  | unknownRegexFlag _ i | invalidRegex _ i | unknownKind _ i | emptyName i | missingValue _ i
  | danglingQuantifier _ i | invalidRange _ i | unclosedRange i | danglingNegation i
  | tooDeep i => i

/-- The empty group or alternation that began at `start`. -/
def emptyBracket : Bracket → (start : Nat) → Fault
  | .group => emptyGroup
  | .alternation => emptyAlternation

/-- The message for a fault in a pattern of the given text. -/
def message (pattern : String) (f : Fault) : String :=
  let inPattern := "in pattern '" ++ pattern ++ "'"
  let place := "at index " ++ toString f.index ++ " " ++ inPattern
  let startPlace := "starting " ++ place
  let shown (c : Char) : String := "'" ++ c.toString ++ "'"
  match f with
  | emptyPattern => "pattern '" ++ pattern ++ "' does not match anything"
  | emptyGroup _ => "group " ++ startPlace ++ " is empty"
  | emptyAlternation _ => "alternation " ++ startPlace ++ " has no alternatives"
  | unclosedBracket b _ => shown b.opening ++ " " ++ place ++ " is never closed"
  | unexpectedClosing b _ => "unbalanced " ++ shown b.closing ++ " " ++ place
  | mismatchedClosing e b _ =>
    "expected " ++ shown e.closing ++ " but found " ++ shown b.closing ++ " " ++ place
  | unclosedText _ => "string literal " ++ startPlace ++ " is not terminated"
  | unknownEscape c _ => "unknown escape '\\" ++ c.toString ++ "' " ++ place
  | loneEscape _ => "escape character " ++ place ++ " has nothing to escape"
  | unclosedRegex _ => "regex literal " ++ startPlace ++ " is not terminated"
  | unknownRegexFlag c _ => "unknown regex flag " ++ shown c ++ " " ++ place
  | invalidRegex source _ => "regex /" ++ source ++ "/ " ++ place ++ " is invalid"
  | unknownKind found _ => "expected a token type " ++ place ++ ", found '" ++ found ++ "'"
  | emptyName _ => "property constraint " ++ place ++ " has no name"
  | missingValue name _ => "property '" ++ name ++ "' " ++ place ++ " is missing its value"
  | danglingQuantifier c _ => "quantifier " ++ shown c ++ " " ++ place ++ " has nothing to repeat"
  | invalidRange r _ => "repetition range " ++ place ++ " is invalid: " ++ r.reason
  | unclosedRange _ => "repetition range " ++ startPlace ++ " is not terminated"
  | danglingNegation _ => "negation " ++ place ++ " is not followed by anything"
  | tooDeep _ => "element " ++ place ++ " is nested too deeply"

end Fault

end Motif.Pattern
