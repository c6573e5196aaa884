import Motif.Compile
import Motif.Match.Advance

/-!
# Matching streams (specification §4.7, E4)

A matcher is fed tokens one by one and says of each whether an attempt is complete with it. Every
token begins a new attempt beside those under way; after a match all of them are dropped. The
frontier holds the threads of the attempts under way, at most as many as the options allow, older
attempts first.

How repetitions are counted is left open: a matcher may use any `counting`, and by default uses the
one that tells the fewest counts apart.

The calls are `add`, `finish` for `end`, and `reset`; `matched` is what `is_match` says.

Out of scope: logging (E1.2), among it that threads were dropped, and matchers that run side by side
(§5).
-/

namespace Motif

variable [RegexEngine]

/-- A matcher in the middle of a stream. -/
structure Matcher where
  pattern : CompiledPattern
  counting : Pattern.Counting := Pattern.Span.next
  frontier : List Thread := []
  matched : Bool := false
  atStart : Bool := true

/-- A matcher before the first token. -/
def CompiledPattern.matcher (p : CompiledPattern) : Matcher :=
  { pattern := p }

namespace Matcher

/-- The number of threads that are kept; there is always room for one. -/
def limit (m : Matcher) : Nat :=
  max 1 m.pattern.options.maxThreads.toNat

/-- Whether a token is passed over. -/
def skips (m : Matcher) (t : Token) : Bool :=
  m.pattern.options.skipsWhitespace && t.kind.isWhitespace

/-- What the attempts under way report for a symbol, and a new one. At the start, a pattern that
asks for it is fed the sentinel first. -/
def run (m : Matcher) (sym : Symbol) : Report :=
  let g := m.pattern.graph
  let threads :=
    if m.atStart && g.hasStartAnchor then (g.step m.counting m.frontier (.sentinel .start)).distinct
    else m.frontier
  g.step m.counting threads sym

/-- Feeds a token: whether an attempt is complete with it, and the matcher after it. -/
def add (m : Matcher) (t : Token) : Bool × Matcher :=
  if m.skips t then (false, { m with matched := false })
  else
    let r := m.run (.token t)
    (r.completed,
      { m with
        frontier := if r.completed then [] else r.distinct.take m.limit
        matched := r.completed
        atStart := false })

/-- Asks whether an attempt is complete if the stream ends here. -/
def finish (m : Matcher) : Bool × Matcher :=
  let completed := (m.run (.sentinel .finish)).completed
  (completed, { m with matched := completed })

/-- The matcher before the first token of another stream. -/
def reset (m : Matcher) : Matcher :=
  { m with frontier := [], matched := false, atStart := true }

end Matcher

end Motif
