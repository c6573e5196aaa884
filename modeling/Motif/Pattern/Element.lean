import Motif.Pattern.Span
import Motif.Token.Basic

/-!
# Pattern trees (specification §4.1, E3)

A pattern is a list of elements. The simplest element tests one token: its kind, and properties
that have to have a value or to be there. Others are the two ends of the text, groups, alternations,
negations and repetitions.

A tree is what was written: quantifiers keep their notation, and a regular expression keeps the
place where it began.

Out of scope: trees that are built piece by piece; a tree is given as a whole.
-/

namespace Motif.Pattern

/-- A regular expression as written between slashes, with the byte index of the opening one. -/
structure RegexLiteral where
  source : String
  flags : String
  index : Nat
  deriving DecidableEq

/-- What a constraint asks of a property. -/
inductive Expected where
  | text (s : String)
  | regex (r : RegexLiteral)
  | present
  deriving DecidableEq

/-- A condition on one property. -/
structure Constraint where
  name : String
  value : Expected
  deriving DecidableEq

/-- A test of a single token; `none` stands for any kind. -/
structure TokenTest where
  kind : Option Token.Kind
  constraints : List Constraint
  deriving DecidableEq

/-- An element of a pattern. -/
inductive Element where
  | token (t : TokenTest)
  | anchor (s : Sentinel)
  | group (elements : List Element)
  | alternation (branches : List Element)
  | negation (e : Element)
  | repetition (e : Element) (q : Quantifier)

namespace Element

/-- The element under `n` negations. -/
def negated (n : Nat) (e : Element) : Element :=
  n.repeat negation e

mutual

/-- Decides whether two elements are the same. -/
def decEq : (a b : Element) → Decidable (a = b)
  | token s, token t => decidable_of_iff (s = t) (by simp)
  | anchor s, anchor t => decidable_of_iff (s = t) (by simp)
  | group s, group t => @decidable_of_iff _ (s = t) (by simp) (decEqList s t)
  | alternation s, alternation t => @decidable_of_iff _ (s = t) (by simp) (decEqList s t)
  | negation s, negation t => @decidable_of_iff _ (s = t) (by simp) (decEq s t)
  | repetition s p, repetition t q =>
    have := decEq s t
    decidable_of_iff (s = t ∧ p = q) (by simp)
  | token _, anchor _ | token _, group _ | token _, alternation _ | token _, negation _
  | token _, repetition .. | anchor _, token _ | anchor _, group _ | anchor _, alternation _
  | anchor _, negation _ | anchor _, repetition .. | group _, token _ | group _, anchor _
  | group _, alternation _ | group _, negation _ | group _, repetition ..
  | alternation _, token _ | alternation _, anchor _ | alternation _, group _
  | alternation _, negation _ | alternation _, repetition .. | negation _, token _
  | negation _, anchor _ | negation _, group _ | negation _, alternation _
  | negation _, repetition .. | repetition .., token _ | repetition .., anchor _
  | repetition .., group _ | repetition .., alternation _ | repetition .., negation _ =>
    isFalse (by simp)

/-- Decides whether two lists of elements are the same. -/
def decEqList : (as bs : List Element) → Decidable (as = bs)
  | [], [] => isTrue rfl
  | a :: as, b :: bs =>
    have := decEq a b
    have := decEqList as bs
    decidable_of_iff (a = b ∧ as = bs) (by simp)
  | [], _ :: _ | _ :: _, [] => isFalse (by simp)

end

instance : DecidableEq Element := decEq

end Element

end Motif.Pattern
