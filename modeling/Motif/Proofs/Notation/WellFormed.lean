import Motif.Pattern.Parse

/-!
# Well-formed trees (specification §4.1, E3)

The trees that can be written down in the notation of patterns: groups and alternations hold
something and are not nested too deeply, a repetition is neither repeated nor negated without a
group around it, bounds admit some count, and names and regular expressions are of the forms in
which they can be read.
-/

namespace Motif.Pattern

/-- Every backslash stands before a character of its own, which is not a slash. -/
def PairedEscapes : List Char → Prop
  | [] => True
  | ['\\'] => False
  | '\\' :: c :: cs => c ≠ '/' ∧ PairedEscapes cs
  | _ :: cs => PairedEscapes cs

/-- A regular expression that can stand between slashes, with distinct letters for flags. -/
structure RegexLiteral.WellFormed (r : RegexLiteral) : Prop where
  paired : PairedEscapes r.source.toList
  flags_mem : ∀ c ∈ r.flags.toList, c ∈ regexFlags
  flags_nodup : r.flags.toList.Nodup

/-- An expected value that can be written down. -/
def Expected.WellFormed : Expected → Prop
  | .regex r => r.WellFormed
  | .text _ | .present => True

/-- A constraint with a name that can be written down. -/
structure Constraint.WellFormed (c : Constraint) : Prop where
  name_ne : c.name.toList ≠ []
  name : ∀ ch ∈ c.name.toList, endsName ch = false
  value : c.value.WellFormed

/-- A test whose constraints can be written down. -/
def TokenTest.WellFormed (t : TokenTest) : Prop :=
  ∀ c ∈ t.constraints, c.WellFormed

/-- A span that some count lies within, and not zero only. -/
structure Span.WellFormed (s : Span) : Prop where
  max_ne : s.max ≠ some 0
  min_le : ∀ m ∈ s.max, s.min ≤ m

namespace Element

/-- Whether an element is a repetition. -/
def isRepetition : Element → Bool
  | repetition .. => true
  | _ => false

/-- An element that can be written down inside of `depth` groups, alternations and negations. -/
inductive WellFormed : (depth : Nat) → Element → Prop
  | token {depth : Nat} {t : TokenTest} : t.WellFormed → WellFormed depth (.token t)
  | anchor {depth : Nat} (s : Sentinel) : WellFormed depth (.anchor s)
  | group {depth : Nat} {es : List Element} : depth < maxDepth → es ≠ [] →
    (∀ e ∈ es, WellFormed (depth + 1) e) → WellFormed depth (.group es)
  | alternation {depth : Nat} {es : List Element} : depth < maxDepth → es ≠ [] →
    (∀ e ∈ es, WellFormed (depth + 1) e) → WellFormed depth (.alternation es)
  | negation {depth : Nat} {e : Element} : depth < maxDepth → e.isRepetition = false →
    WellFormed (depth + 1) e → WellFormed depth (.negation e)
  | repetition {depth : Nat} {e : Element} {q : Quantifier} : e.isRepetition = false →
    WellFormed depth e → q.span.WellFormed → WellFormed depth (.repetition e q)

end Element

end Motif.Pattern
