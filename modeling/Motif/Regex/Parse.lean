import Motif.Regex.Bracket
import Motif.Text.Letter

/-!
# Reading regular expressions

An expression is read from left to right with a stack of open groups. Modes such as `i` may be set
in the middle of a group and hold to its end. Only whether an expression is well formed matters to
the callers, so a fault has no description.

The names of capturing groups must not repeat. Under the mode `U` the lazy mark makes a repetition
greedy.
-/

namespace Motif.Regex

/-- How deep expressions may be nested. -/
def maxDepth : Nat := 250

/-- An open group: whether it captures, the modes outside it, the branches before, and the
expressions before it in the last branch, last first. -/
structure OpenGroup where
  captures : Bool
  modes : Modes
  branches : List Regex
  before : List Regex

/-- The state between two steps: modes, names of groups, open groups from the inside out, and the
branches and the expressions of the innermost, last first. -/
structure ParseState where
  modes : Modes
  names : List (List Char) := []
  groups : List OpenGroup := []
  branches : List Regex := []
  items : List Regex := []

namespace ParseState

/-- The state after one more expression. -/
def push (s : ParseState) (r : Regex) : ParseState :=
  { s with items := r :: s.items }

/-- All that the innermost group holds. -/
def content (s : ParseState) : Regex :=
  ofBranches (ofSequence s.items.reverse :: s.branches).reverse

/-- The state after the bar between two branches. -/
def branch (s : ParseState) : ParseState :=
  { s with branches := ofSequence s.items.reverse :: s.branches, items := [] }

/-- The state after the start of a group with the given modes. -/
def enter (s : ParseState) (captures : Bool) (modes : Modes) : ParseState :=
  { s with
    modes
    groups := ⟨captures, s.modes, s.branches, s.items⟩ :: s.groups
    branches := []
    items := [] }

/-- The state after the end of a group, if one is open. -/
def leave? (s : ParseState) : Option ParseState :=
  match s.groups with
  | [] => none
  | g :: groups =>
    some { s with
      modes := g.modes
      groups
      branches := g.branches
      items := .group s.content g.captures :: g.before }

/-- The state with the last expression repeated, if there is one. A group of nothing but modes is
none. -/
def repeat? (s : ParseState) (min : Nat) (max : Option Nat) (isLazy : Bool) :
    Option ParseState :=
  match s.items with
  | [] | .empty :: _ => none
  | r :: items =>
    some { s with items := .repetition r min max (isLazy == s.modes.swapGreed) :: items }

end ParseState

/-! ## Groups and repetitions -/

/-- Reads modes up to a colon or a closing parenthesis, which is returned. `seen` are the letters
and the minus sign before; `dangling` says that the last of them is the minus sign. -/
def readModes (m : Modes) (seen : List Char) (on dangling : Bool) :
    List Char → Option (Modes × Char × List Char)
  | [] => none
  | c :: cs =>
    if c = ':' ∨ c = ')' then
      if dangling ∨ (c = ')' ∧ seen = []) then none else some (m, c, cs)
    else if c ∈ seen then none
    else if c = '-' then readModes m (c :: seen) false true cs
    else
      match m.set? c on with
      | some m => readModes m (c :: seen) on false cs
      | none => none

/-- A character that the name of a group may begin with. -/
def beginsName (c : Char) : Bool :=
  c == '_' || Text.isAlphabetic c

/-- A character that the name of a group may go on with. -/
def continuesName (c : Char) : Bool :=
  c ∈ ['_', '.', '[', ']'] || Text.isAlphanumeric c

/-- Reads the name of a group up to its closing angle bracket. -/
def readName (cs : List Char) : Option (List Char × List Char) :=
  let name := cs.takeWhile (· != '>')
  match cs.dropWhile (· != '>'), name with
  | '>' :: rest, c :: tail =>
    if beginsName c && tail.all continuesName then some (name, rest) else none
  | _, _ => none

/-- Reads the start of a group after its opening parenthesis, or a group of nothing but modes. -/
def stepGroup (s : ParseState) (cs : List Char) : Option (ParseState × List Char) :=
  let named (cs : List Char) : Option (ParseState × List Char) :=
    match readName cs with
    | none => none
    | some (name, rest) =>
      if name ∈ s.names then none
      else some ({ s.enter true s.modes with names := name :: s.names }, rest)
  match skipSpace s.modes.freeForm cs with
  | '?' :: '=' :: _ | '?' :: '!' :: _ | '?' :: '<' :: '=' :: _ | '?' :: '<' :: '!' :: _ => none
  | '?' :: 'P' :: '<' :: cs => named cs
  | '?' :: '<' :: cs => named cs
  | '?' :: cs =>
    match readModes s.modes [] true false cs with
    | none => none
    | some (m, ')', rest) => some ({ s.push .empty with modes := m }, rest)
    | some (m, _, rest) => some (s.enter false m, rest)
  | cs => some (s.enter true s.modes, cs)

/-- Repeats the last expression, lazily if the mark for that is next. -/
def stepRepeat (s : ParseState) (min : Nat) (max : Option Nat) :
    List Char → Option (ParseState × List Char)
  | '?' :: cs => (s.repeat? min max true).map (·, cs)
  | cs => (s.repeat? min max false).map (·, cs)

/-- Reads the bounds of a repetition after the opening brace. -/
def readBounds (free : Bool) (cs : List Char) : Option ((Nat × Option Nat) × List Char) :=
  match readBound free (skipSpace free cs) with
  | none => none
  | some (min, '\x7d' :: rest) => some ((min, some min), skipSpace free rest)
  | some (min, ',' :: rest) =>
    match skipSpace free rest with
    | '\x7d' :: rest => some ((min, none), skipSpace free rest)
    | rest =>
      match readBound free rest with
      | some (max, '\x7d' :: rest) =>
        if min ≤ max then some ((min, some max), skipSpace free rest) else none
      | _ => none
  | some _ => none

section

variable [Text.PropertyTables]

/-- Reads one step, which is not free space. -/
def parseStep (s : ParseState) : List Char → Option (ParseState × List Char)
  | [] => none
  | '(' :: cs => stepGroup s cs
  | ')' :: cs => s.leave?.map (·, cs)
  | '|' :: cs => some (s.branch, cs)
  | '[' :: cs =>
    (readBracket s.modes cs).map fun (item, rest) => (s.push (.char item.points item.depth), rest)
  | '?' :: cs => stepRepeat s 0 (some 1) cs
  | '*' :: cs => stepRepeat s 0 none cs
  | '+' :: cs => stepRepeat s 1 none cs
  | '\x7b' :: cs =>
    match readBounds s.modes.freeForm cs with
    | none => none
    | some ((min, max), rest) => stepRepeat s min max rest
  | '.' :: cs => s.modes.dot.map fun set => (s.push (.char set 0), cs)
  | '^' :: cs => some (s.push (.look s.modes.caret), cs)
  | '$' :: cs => some (s.push (.look s.modes.dollar), cs)
  | cs =>
    match readUnit s.modes.freeForm cs with
    | none => none
    | some (e, rest) => (s.modes.expression? e).map fun r => (s.push r, rest)

end

/-! ## Every step moves on -/

theorem readModes_length {m m' : Modes} {seen : List Char} {on dangling : Bool} {c : Char}
    {cs rest : List Char} (h : readModes m seen on dangling cs = some (m', c, rest)) :
    rest.length < cs.length := by
  fun_induction readModes m seen on dangling cs with
  | case1 | case2 | case4 | case7 => cases h
  | case3 =>
    obtain ⟨_, h⟩ := Prod.mk.inj (Option.some.inj h)
    obtain ⟨_, rfl⟩ := Prod.mk.inj h
    simp
  | case5 _ _ _ _ _ _ _ ih => exact Nat.lt_succ_of_lt (ih h)
  | case6 _ _ _ _ _ _ _ _ _ _ _ ih => exact Nat.lt_succ_of_lt (ih h)

theorem readName_length {cs name rest : List Char} (h : readName cs = some (name, rest)) :
    rest.length < cs.length := by
  unfold readName at h
  dsimp only at h
  split at h
  · rename_i r _ _ hr _
    have := length_dropWhile_le (· != '>') cs
    rw [hr] at this
    split at h
    · obtain ⟨_, rfl⟩ := Prod.mk.inj (Option.some.inj h)
      exact this
    · cases h
  · cases h

theorem stepRepeat_length {s s' : ParseState} {min : Nat} {max : Option Nat} {cs rest : List Char}
    (h : stepRepeat s min max cs = some (s', rest)) : rest.length ≤ cs.length := by
  unfold stepRepeat at h
  split at h
  all_goals
    obtain ⟨_, _, h⟩ := Option.map_eq_some_iff.mp h
    obtain ⟨_, rfl⟩ := Prod.mk.inj h
    simp

theorem readBounds_length {free : Bool} {cs rest : List Char} {b : Nat × Option Nat}
    (h : readBounds free cs = some (b, rest)) : rest.length ≤ cs.length := by
  have h0 := length_skipSpace_le free cs
  unfold readBounds at h
  split at h
  · cases h
  · rename_i r hb
    have h1 := readBound_length hb
    have h2 := length_skipSpace_le free r
    obtain ⟨_, rfl⟩ := Prod.mk.inj (Option.some.inj h)
    simp only [List.length_cons] at h1
    omega
  · rename_i r hb
    have h1 := readBound_length hb
    have h2 := length_skipSpace_le free r
    simp only [List.length_cons] at h1
    split at h
    · rename_i r' hr
      have h3 := length_skipSpace_le free r'
      rw [hr] at h2
      obtain ⟨_, rfl⟩ := Prod.mk.inj (Option.some.inj h)
      simp only [List.length_cons] at h2
      omega
    · split at h
      · rename_i r' hb
        have h3 := readBound_length hb
        have h4 := length_skipSpace_le free r'
        simp only [List.length_cons] at h3
        split at h
        · obtain ⟨_, rfl⟩ := Prod.mk.inj (Option.some.inj h)
          omega
        · cases h
      · cases h
  · cases h

theorem stepGroup_length {s s' : ParseState} {cs rest : List Char}
    (h : stepGroup s cs = some (s', rest)) : rest.length ≤ cs.length := by
  have h0 := length_skipSpace_le s.modes.freeForm cs
  unfold stepGroup at h
  dsimp only at h
  split at h
  case h_1 | h_2 | h_3 | h_4 => cases h
  case h_5 _ r hr | h_6 _ r _ _ hr =>
    rw [hr] at h0
    split at h
    · cases h
    · rename_i hn
      have := readName_length hn
      split at h
      · cases h
      · obtain ⟨_, rfl⟩ := Prod.mk.inj (Option.some.inj h)
        simp only [List.length_cons] at h0
        omega
  case h_7 hr =>
    rw [hr] at h0
    simp only [List.length_cons] at h0
    split at h
    · cases h
    all_goals
      rename_i hm
      have := readModes_length hm
      obtain ⟨_, rfl⟩ := Prod.mk.inj (Option.some.inj h)
      omega
  case h_8 =>
    obtain ⟨_, rfl⟩ := Prod.mk.inj (Option.some.inj h)
    exact h0

variable [Text.PropertyTables]

theorem parseStep_length {s s' : ParseState} {cs rest : List Char}
    (h : parseStep s cs = some (s', rest)) : rest.length < cs.length := by
  unfold parseStep at h
  split at h
  case h_1 => cases h
  case h_2 => exact Nat.lt_succ_of_le (stepGroup_length h)
  case h_3 =>
    obtain ⟨_, _, h⟩ := Option.map_eq_some_iff.mp h
    obtain ⟨_, rfl⟩ := Prod.mk.inj h
    simp
  case h_4 | h_11 | h_12 =>
    obtain ⟨_, rfl⟩ := Prod.mk.inj (Option.some.inj h)
    simp
  case h_5 =>
    obtain ⟨⟨_, _⟩, hb, h⟩ := Option.map_eq_some_iff.mp h
    obtain ⟨_, rfl⟩ := Prod.mk.inj h
    exact Nat.lt_succ_of_le (readBracket_length hb)
  case h_6 | h_7 | h_8 => exact Nat.lt_succ_of_le (stepRepeat_length h)
  case h_9 =>
    split at h
    · cases h
    · rename_i r hb
      exact Nat.lt_succ_of_le (Nat.le_trans (stepRepeat_length h) (readBounds_length hb))
  case h_10 =>
    obtain ⟨_, _, h⟩ := Option.map_eq_some_iff.mp h
    obtain ⟨_, rfl⟩ := Prod.mk.inj h
    simp
  case h_13 =>
    split at h
    · cases h
    · rename_i hu
      obtain ⟨_, _, h⟩ := Option.map_eq_some_iff.mp h
      obtain ⟨_, rfl⟩ := Prod.mk.inj h
      exact readUnit_length hu

/-! ## Whole expressions -/

/-- Reads on from a state to the end of the text. -/
def parseFrom (s : ParseState) (cs : List Char) : Option Regex :=
  match _hs : skipSpace s.modes.freeForm cs with
  | [] => if s.groups.isEmpty then some s.content else none
  | c :: rest =>
    match _h : parseStep s (c :: rest) with
    | none => none
    | some (s', rest') => parseFrom s' rest'
termination_by cs.length
decreasing_by
  have := length_skipSpace_le s.modes.freeForm cs
  rw [_hs] at this
  exact Nat.lt_of_lt_of_le (parseStep_length _h) this

/-- The expression that a text stands for under the given modes, if it is well formed. -/
def parse? (m : Modes) (text : List Char) : Option Regex :=
  (parseFrom { modes := m } text).filter (·.depth ≤ maxDepth)

end Motif.Regex
