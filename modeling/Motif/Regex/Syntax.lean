import Motif.Text.Word

/-!
# Regular expressions

The trees that regular expressions are read into. A look tests a place between two characters
without taking any.
-/

namespace Motif.Regex

/-- A test of the characters on both sides of a place, by whether words are made of them. -/
inductive WordTest where
  | boundary
  | noBoundary
  | start
  | finish
  | startHalf
  | finishHalf
  deriving DecidableEq

/-- Whether a test holds between a character of the one kind and one of the other. -/
def WordTest.holds (t : WordTest) (before after : Bool) : Bool :=
  match t with
  | boundary => before != after
  | noBoundary => before == after
  | start => !before && after
  | finish => before && !after
  | startHalf => !before
  | finishHalf => !after

/-- A test of a place, by the characters before and after it. -/
inductive Look where
  | textStart
  | textEnd
  | lineStart (crlf : Bool)
  | lineEnd (crlf : Bool)
  | word (test : WordTest) (ascii : Bool)
  deriving DecidableEq

/-- Whether a test holds between the two characters, `none` standing for the end of the text. Lines
end at a line feed, under `crlf` also at a carriage return, but not between the two. -/
def Look.holds (l : Look) (before after : Option Char) : Bool :=
  match l with
  | textStart => before.isNone
  | textEnd => after.isNone
  | lineStart false => before.isNone || before == some '\n'
  | lineEnd false => after.isNone || after == some '\n'
  | lineStart true =>
    before.isNone || before == some '\n' || (before == some '\r' && after != some '\n')
  | lineEnd true =>
    after.isNone || after == some '\r' || (after == some '\n' && before != some '\r')
  | word test ascii =>
    let members := if ascii then Text.asciiWord else Text.word
    test.holds (before.any members.contains) (after.any members.contains)

end Motif.Regex

namespace Motif

/-- A regular expression. A set of characters comes with the depth of the brackets that it was read
from. Whether a group captures and a repetition is greedy makes no difference to the texts that
match. -/
inductive Regex where
  | empty
  | char (s : Text.CodePointSet) (depth : Nat)
  | look (l : Regex.Look)
  | concat (rs : List Regex)
  | alternation (rs : List Regex)
  | group (r : Regex) (captures : Bool)
  | repetition (r : Regex) (min : Nat) (max : Option Nat) (greedy : Bool)

namespace Regex

/-- How deep an expression is nested. -/
def depth : Regex → Nat
  | empty | look _ => 0
  | char _ d => d
  | concat rs | alternation rs => (rs.map depth).foldl Nat.max 0 + 1
  | group r _ | repetition r .. => r.depth + 1

/-- The expressions of a list one after the other. -/
def ofSequence : List Regex → Regex
  | [] => empty
  | [r] => r
  | rs => concat rs

/-- Any one of the expressions of a list. -/
def ofBranches : List Regex → Regex
  | [r] => r
  | rs => alternation rs

end Regex

end Motif
