import Motif.Pattern.Range
import Motif.Pattern.TokenTest

/-!
# Reading patterns (specification §4.1, E3)

A pattern is read from left to right with a stack of open brackets. The state holds, for each open
bracket, the elements before it and the negations in front of it; then the elements since the
innermost one; and what may come next:

* `ready`: an element, a blank or a closing bracket;
* `negating`: after an exclamation mark an element has to follow at once;
* `complete`: an element has just ended and may still be quantified, else as `ready`.

Every step takes at least one character (`parseStep_passes`), so reading ends. Brackets and
negations may be nested `maxDepth` deep.

`parse` is the call `parse_pattern`. Where `parse_sequence` and `nested` call themselves for what is
in brackets, a frame is put on the stack.

Out of scope: logging (E1.2). What was read is a list of elements, and nothing is kept of the text
but the places of regular expressions.
-/

namespace Motif.Pattern

/-- How deep groups, alternations and negations may be nested. -/
def maxDepth : Nat := 128

/-- An open bracket: where it stands, how many negations are in front of it, and the elements before
it, last first. -/
structure Frame where
  bracket : Bracket
  start : Nat
  negations : Nat
  before : List Element

/-- What may come next. Under `negating n mark`, `n` negations are waiting for their element, and
the last of their marks stands at `mark`. -/
inductive Mode where
  | ready
  | negating (n : Nat) (mark : Nat)
  | complete (e : Element)

/-- The state between two steps: the open brackets from the inside out, the finished elements since
the innermost, last first, and what may come next. -/
structure ParseState where
  frames : List Frame := []
  elements : List Element := []
  mode : Mode := .ready

/-- Whether a character is or begins a quantifier. -/
def isQuantifier (c : Char) : Bool :=
  c ∈ ['?', '*', '+', '\x7b']

/-- The elements that a bracket holds. -/
def Bracket.element : Bracket → List Element → Element
  | .group => .group
  | .alternation => .alternation

namespace ParseState

/-- All elements since the innermost open bracket, last first. -/
def settled (s : ParseState) : List Element :=
  match s.mode with
  | .complete e => e :: s.elements
  | _ => s.elements

/-- How many negations are waiting for their element. -/
def waiting (s : ParseState) : Nat :=
  match s.mode with
  | .negating n _ => n
  | _ => 0

/-- How deep the next element is nested. -/
def depth (s : ParseState) : Nat :=
  total (s.frames.map (·.negations + 1)) + s.waiting

/-- The state after an element that stands under the waiting negations. -/
def push (s : ParseState) (e : Element) : ParseState :=
  { s with elements := s.settled, mode := .complete (e.negated s.waiting) }

/-- The state after the negation mark at `i`. -/
def negate (s : ParseState) (i : Nat) : ParseState :=
  { s with elements := s.settled, mode := .negating (s.waiting + 1) i }

/-- The state after the opening bracket at `i`. -/
def enter (s : ParseState) (b : Bracket) (i : Nat) : ParseState :=
  { frames := ⟨b, i, s.waiting, s.settled⟩ :: s.frames }

/-- The state after the closing bracket at `i`. -/
def leave (s : ParseState) (b : Bracket) (i : Nat) : Except Fault ParseState :=
  match s.frames with
  | [] => .error (.unexpectedClosing b i)
  | f :: frames =>
    if f.bracket ≠ b then .error (.mismatchedClosing f.bracket b i)
    else if s.settled = [] then .error (.emptyBracket b f.start)
    else
      .ok {
        frames
        elements := f.before
        mode := .complete ((b.element s.settled.reverse).negated f.negations) }

/-- The state after one more level of nesting at `i`, if there may be one. -/
def nest (s s' : ParseState) (i : Nat) : Except Fault ParseState :=
  if s.depth = maxDepth then .error (.tooDeep i) else .ok s'

end ParseState

/-- Reads the quantifier that begins with `c`. -/
def readQuantifier (c : Char) (cs : List Char) (i : Nat) : Reading Quantifier :=
  match c with
  | '?' => .ok (.optional, .past i c cs)
  | '*' => .ok (.star, .past i c cs)
  | '+' => .ok (.plus, .past i c cs)
  | _ => (readRange i (.past i c cs)).map .range

/-- Reads what begins an element, with the character `c`. -/
def stepElement (s : ParseState) (c : Char) (cs : List Char) (i : Nat) : Reading ParseState :=
  let next : Cursor := .past i c cs
  match c with
  | '!' => (s.nest (s.negate i) i).map (·, next)
  | '(' => (s.nest (s.enter .group i) i).map (·, next)
  | '[' => (s.nest (s.enter .alternation i) i).map (·, next)
  | '^' => .ok (s.push (.anchor .start), next)
  | '$' => .ok (s.push (.anchor .finish), next)
  | '\'' =>
    (readText i cs next.index).map fun t =>
      s.push (.token ⟨none, [⟨Token.textName, .text (.ofList t)⟩]⟩)
  | '/' =>
    (readRegex i cs next.index).map fun r =>
      s.push (.token ⟨none, [⟨Token.textName, .regex r⟩]⟩)
  | _ =>
    if isQuantifier c then .error (.danglingQuantifier c i)
    else (readTokenTest ⟨c :: cs, i⟩).map (s.push <| .token ·)

/-- The closing bracket that a character is. -/
def closing? : Char → Option Bracket
  | ')' => some .group
  | ']' => some .alternation
  | _ => none

/-- Reads a step where no negation is waiting: a blank, a closing bracket, or what begins an
element. -/
def stepBetween (s : ParseState) (c : Char) (cs : List Char) (i : Nat) : Reading ParseState :=
  if Text.isBlank c then .ok ({ s with elements := s.settled, mode := .ready }, .past i c cs)
  else
    match closing? c with
    | some b => (s.leave b i).map (·, .past i c cs)
    | none => stepElement s c cs i

/-- Reads one step. -/
def parseStep (s : ParseState) (c : Char) (cs : List Char) (i : Nat) : Reading ParseState :=
  match s.mode with
  | .negating _ mark =>
    if Text.isBlank c || (closing? c).isSome then .error (.danglingNegation mark)
    else stepElement s c cs i
  | .complete e =>
    if isQuantifier c then
      (readQuantifier c cs i).map fun q =>
        { s with elements := .repetition e q :: s.elements, mode := .ready }
    else stepBetween s c cs i
  | .ready => stepBetween s c cs i

/-- The elements of a whole pattern, once its text has ended. -/
def ParseState.finish (s : ParseState) : Except Fault (List Element) :=
  match s.mode, s.frames with
  | .negating _ mark, _ => .error (.danglingNegation mark)
  | _, f :: _ => .error (.unclosedBracket f.bracket f.start)
  | _, [] => if s.settled = [] then .error .emptyPattern else .ok s.settled.reverse

/-! ## Every step moves on -/

theorem readQuantifier_passes {c : Char} {cs : List Char} {i : Nat} {q : Quantifier} {b : Cursor}
    (h : readQuantifier c cs i = .ok (q, b)) : Cursor.Passes ⟨c :: cs, i⟩ b := by
  have hp : Cursor.Passes ⟨c :: cs, i⟩ (.past i c cs) := Cursor.passes_past rfl
  unfold readQuantifier at h
  split at h
  case h_4 =>
    obtain ⟨_, h, _⟩ := Reading.map_eq_ok h
    exact hp.trans_reaches (readRange_reaches h)
  all_goals
    obtain ⟨_, rfl⟩ := Prod.mk.inj (Except.ok.inj h)
    exact hp

theorem stepElement_passes {s s' : ParseState} {c : Char} {cs : List Char} {i : Nat} {b : Cursor}
    (h : stepElement s c cs i = .ok (s', b)) : Cursor.Passes ⟨c :: cs, i⟩ b := by
  have hp : Cursor.Passes ⟨c :: cs, i⟩ (.past i c cs) := Cursor.passes_past rfl
  unfold stepElement at h
  dsimp only at h
  split at h
  case h_1 | h_2 | h_3 =>
    obtain rfl := map_pair_eq_ok h
    exact hp
  case h_4 | h_5 =>
    obtain ⟨_, rfl⟩ := Prod.mk.inj (Except.ok.inj h)
    exact hp
  case h_6 =>
    obtain ⟨_, h, _⟩ := Reading.map_eq_ok h
    exact hp.trans_reaches (readText_passes h).reaches
  case h_7 =>
    obtain ⟨_, h, _⟩ := Reading.map_eq_ok h
    exact hp.trans_reaches (readRegex_passes h).reaches
  case h_8 =>
    split at h
    · cases h
    · obtain ⟨_, h, _⟩ := Reading.map_eq_ok h
      exact readTokenTest_passes h

theorem stepBetween_passes {s s' : ParseState} {c : Char} {cs : List Char} {i : Nat} {b : Cursor}
    (h : stepBetween s c cs i = .ok (s', b)) : Cursor.Passes ⟨c :: cs, i⟩ b := by
  have hp : Cursor.Passes ⟨c :: cs, i⟩ (.past i c cs) := Cursor.passes_past rfl
  unfold stepBetween at h
  split at h
  · obtain ⟨_, rfl⟩ := Prod.mk.inj (Except.ok.inj h)
    exact hp
  · split at h
    · obtain rfl := map_pair_eq_ok h
      exact hp
    · exact stepElement_passes h

theorem parseStep_passes {s s' : ParseState} {c : Char} {cs : List Char} {i : Nat} {b : Cursor}
    (h : parseStep s c cs i = .ok (s', b)) : Cursor.Passes ⟨c :: cs, i⟩ b := by
  unfold parseStep at h
  split at h
  · split at h
    · cases h
    · exact stepElement_passes h
  · split at h
    · obtain ⟨_, h, _⟩ := Reading.map_eq_ok h
      exact readQuantifier_passes h
    · exact stepBetween_passes h
  · exact stepBetween_passes h

/-! ## Whole patterns -/

/-- Reads on from a state to the end of the text. -/
def parseFrom (s : ParseState) (a : Cursor) : Except Fault (List Element) :=
  match _hr : a.rest with
  | [] => s.finish
  | c :: cs =>
    match _h : parseStep s c cs a.index with
    | .error e => .error e
    | .ok (s', b) => parseFrom s' b
termination_by a.rest.length
decreasing_by simpa [_hr] using (parseStep_passes _h).length_lt

/-- The elements that the text of a pattern stands for. -/
def parse (pattern : String) : Except Fault (List Element) :=
  parseFrom {} (.ofString pattern)

end Motif.Pattern
