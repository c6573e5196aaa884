/-!
# Repetition spans (specification §4.5, E3)

How often an element may be repeated: at least `min` times and, where there is an upper bound, at
most `max` times. A quantifier is a span as it was written; `?`, `*` and `+` are short for spans.

A matcher counts repetitions. It need not tell all counts apart: without an upper bound all that
are enough count as `min`, and no bound exceeds `maxCount`. `Span.next` counts in this way.

`Span` is a `QuantifierSpan` with the calls `allows_more`, `is_satisfied` and `clamp`; a quantifier
has its `bounds` as a span.
-/

namespace Motif.Pattern

/-- How often an element may be repeated. -/
structure Span where
  min : UInt32
  max : Option UInt32
  deriving DecidableEq

/-- A span as it was written. -/
inductive Quantifier where
  | optional
  | star
  | plus
  | range (s : Span)
  deriving DecidableEq

namespace Quantifier

/-- The span that a quantifier stands for. -/
def span : Quantifier → Span
  | optional => ⟨0, some 1⟩
  | star => ⟨0, none⟩
  | plus => ⟨1, none⟩
  | range s => s

end Quantifier

/-- The largest number that can be a bound. -/
def maxCount : Nat := UInt32.size - 1

/-- A way of counting the repetitions of a span: the count after one more. -/
abbrev Counting := Span → Nat → Nat

namespace Span

/-- Whether a further repetition may follow `count` of them. -/
def allowsMore (s : Span) (count : Nat) : Bool :=
  s.max.all (count < ·.toNat)

/-- Whether `count` repetitions are enough. -/
def isSatisfied (s : Span) (count : Nat) : Bool :=
  s.min.toNat ≤ count

/-- The count, cut down to `min` when there is no upper bound to compare it with. -/
def clamp (s : Span) (count : Nat) : Nat :=
  if s.max.isSome then count else Min.min count s.min.toNat

/-- The count after one more repetition, as far as it makes a difference. -/
def next : Counting := fun s count =>
  s.clamp (Min.min (count + 1) maxCount)

/-- A number in decimal notation. -/
def decimal (n : UInt32) : String :=
  toString n.toNat

/-- The shortest way to write a span. -/
def text (s : Span) : String :=
  match s.min, s.max with
  | 0, some 1 => "?"
  | 0, none => "*"
  | 1, none => "+"
  | min, some max =>
    if min = max then "\x7b" ++ decimal min ++ "\x7d"
    else if min = 0 then "\x7b," ++ decimal max ++ "\x7d"
    else "\x7b" ++ decimal min ++ "," ++ decimal max ++ "\x7d"
  | min, none => "\x7b" ++ decimal min ++ ",\x7d"

end Span

end Motif.Pattern
