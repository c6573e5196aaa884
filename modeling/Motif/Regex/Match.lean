import Motif.Regex.Syntax

/-!
# Matching regular expressions

A text of `n` characters has the places `0`, …, `n`, place `i` being before character `i`. An
expression takes every place to the places where a match that begins there may end, and a set of
places to the union of what its members are taken to. Sets of places are numbers in binary: the bit
`i` is the place `i`.

Read against one text, an expression is a `Walk`: a test of characters is the set of places that
precede such a character, and a look the set of places where it holds. A walk then only combines
numbers, so matching takes polynomial time, whatever the expression.
-/

namespace Motif.Regex

/-- An expression read against one text. -/
inductive Walk where
  | stay
  | step (places : Nat)
  | look (places : Nat)
  | seq (ws : List Walk)
  | choice (ws : List Walk)
  | repetition (w : Walk) (min : Nat) (max : Option Nat)

/-- `f` applied `n` times, as far as it changes anything. -/
def applyTimes (f : Nat → Nat) : Nat → Nat → Nat
  | 0, x => x
  | n + 1, x =>
    let y := f x
    if y = x then x else applyTimes f n y

/-- The places that are reached by applying `f` at most `n` times, as far as there are new ones. -/
def reachWithin (f : Nat → Nat) : Nat → Nat → Nat
  | 0, x => x
  | n + 1, x =>
    let y := x ||| f x
    if y = x then x else reachWithin f n y

/-- The places where matches end that begin at one of the places `x`, in a text of `size`
characters. -/
def Walk.ends (size : Nat) : Walk → Nat → Nat
  | stay, x => x
  | step places, x => (x &&& places) <<< 1
  | look places, x => x &&& places
  | seq ws, x => ws.foldl (fun y w => w.ends size y) x
  | choice ws, x => ws.foldl (fun y w => y ||| w.ends size x) 0
  | repetition w min max, x =>
    reachWithin (w.ends size) (max.elim (size + 1) (· - min)) (applyTimes (w.ends size) min x)

/-- The number whose bits, from the lowest on, are those of a list. -/
def ofBits (bits : List Bool) : Nat :=
  bits.foldr (fun b n => 2 * n + b.toNat) 0

/-- The pairs of characters around the places of a text, from the first place on. -/
def around (before : Option Char) : List Char → List (Option Char × Option Char)
  | [] => [(before, none)]
  | c :: cs => (before, some c) :: around (some c) cs

/-- An expression read against a text. -/
def walk (text : List Char) : Regex → Walk
  | empty => .stay
  | char s _ => .step (ofBits (text.map s.contains))
  | look l => .look (ofBits ((around none text).map fun p => l.holds p.1 p.2))
  | concat rs => .seq (rs.map (walk text))
  | alternation rs => .choice (rs.map (walk text))
  | group r _ => walk text r
  | repetition r min max _ => .repetition (walk text r) min max

/-- Whether a match begins at some place of a text. -/
def isMatch (r : Regex) (text : List Char) : Bool :=
  (r.walk text).ends text.length (1 <<< (text.length + 1) - 1) != 0

end Motif.Regex
