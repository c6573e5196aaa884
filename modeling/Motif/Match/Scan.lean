import Motif.Match.Stream
import Motif.Regex.Standard

/-!
# Scanning sentences (specification E5)

A pattern is run over sentences, which no match crosses. A match is found at the token that
completes it, or at the end of a sentence. `CompiledPattern.scan` is the call `scan_sentences`.

Out of scope: sentences that never end, and sentences that are made while they are read.
-/

namespace Motif

/-- Where a match is found; `none` stands for the end of the sentence. -/
structure Location where
  sentence : Nat
  token : Option Nat
  deriving DecidableEq

variable [RegexEngine]

namespace Matcher

/-- The locations in the rest of a sentence, which begins with the token numbered `i`, and the
matcher after it. -/
def scanFrom (m : Matcher) (sentence i : Nat) : List Token → List Location × Matcher
  | [] =>
    let (found, m) := m.finish
    (if found then [⟨sentence, none⟩] else [], m)
  | t :: ts =>
    let (found, m) := m.add t
    let (rest, m) := m.scanFrom sentence (i + 1) ts
    (if found then ⟨sentence, some i⟩ :: rest else rest, m)

/-- The locations in sentences, the first of which has the number `i`. -/
def scanAll (m : Matcher) (i : Nat) : List (List Token) → List Location
  | [] => []
  | s :: ss =>
    let (found, m) := m.reset.scanFrom i 0 s
    found ++ m.scanAll (i + 1) ss

end Matcher

/-- The locations of all matches in sentences. -/
def CompiledPattern.scan (p : CompiledPattern) (sentences : List (List Token)) : List Location :=
  p.matcher.scanAll 0 sentences

end Motif
