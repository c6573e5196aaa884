import Motif.Regex.Modes

/-!
# Bracketed sets of regular expressions

A set between brackets lists characters, ranges, escapes, named ASCII classes such as `[:alpha:]`
and further brackets. A caret at the start takes the complement. Two lists may be joined by `&&`,
`--` or `~~`, which group to the left.

Brackets are read with a stack of the open ones, one item at a time.
-/

namespace Motif.Regex

open Text (CodePointSet)

/-- An operation between two lists in brackets. -/
inductive SetOp where
  | inter
  | diff
  | symmDiff

/-- The set that an operation makes of two. -/
def SetOp.apply : SetOp → CodePointSet → CodePointSet → CodePointSet
  | inter => .inter
  | diff => .diff
  | symmDiff => .symmDiff

/-- The ASCII classes that are called by name. -/
def asciiClass? (name : List Char) : Option CodePointSet :=
  let runs (rs : List (Char × Char)) : Option CodePointSet :=
    some (.ofRuns (rs.map fun r => (r.1.toNat, r.2.toNat)))
  match String.ofList name with
  | "alnum" => runs [('0', '9'), ('A', 'Z'), ('a', 'z')]
  | "alpha" => runs [('A', 'Z'), ('a', 'z')]
  | "ascii" => runs [('\x00', '\x7f')]
  | "blank" => runs [('\t', '\t'), (' ', ' ')]
  | "cntrl" => runs [('\x00', '\x1f'), ('\x7f', '\x7f')]
  | "digit" => runs [('0', '9')]
  | "graph" => runs [('!', '~')]
  | "lower" => runs [('a', 'z')]
  | "print" => runs [(' ', '~')]
  | "punct" => runs [('!', '/'), (':', '@'), ('[', '\x60'), ('\x7b', '~')]
  | "space" => runs [('\t', '\r'), (' ', ' ')]
  | "upper" => runs [('A', 'Z')]
  | "word" => runs [('0', '9'), ('A', 'Z'), ('_', '_'), ('a', 'z')]
  | "xdigit" => runs [('0', '9'), ('A', 'F'), ('a', 'f')]
  | _ => none

/-- A set as it stands in brackets, with the depth of the brackets and operations in it. -/
structure SetItem where
  points : CodePointSet
  depth : Nat := 0

/-- The items of a list as one. -/
def SetItem.ofList : List SetItem → SetItem
  | [item] => item
  | items =>
    { points := .unions (items.map (·.points))
      depth := if items.isEmpty then 0 else (items.map (·.depth)).foldl Nat.max 0 + 1 }

/-- An open bracket: whether the complement is meant, the list before the last operation, and the
items since then, last first. -/
structure OpenBracket where
  negated : Bool
  left : Option (SetItem × SetOp) := none
  items : List SetItem := []

namespace OpenBracket

/-- The bracket with one more item. -/
def add (b : OpenBracket) (item : SetItem) : OpenBracket :=
  { b with items := item :: b.items }

/-- What the bracket holds so far. -/
def content (m : Modes) (b : OpenBracket) : SetItem :=
  let right := SetItem.ofList b.items
  match b.left with
  | none => right
  | some (left, op) =>
    ⟨op.apply (m.folded left.points) (m.folded right.points), Nat.max left.depth right.depth + 1⟩

/-- The bracket after an operation. -/
def operate (m : Modes) (b : OpenBracket) (op : SetOp) : OpenBracket :=
  { b with left := some (b.content m, op), items := [] }

/-- The set of a bracket that is closed. -/
def close? (m : Modes) (b : OpenBracket) : Option SetItem :=
  let item := b.content m
  (m.adjusted b.negated item.points).map (⟨·, item.depth + 1⟩)

end OpenBracket

/-! ## Items -/

/-- Reads a named ASCII class after its opening bracket, and whether its complement is meant. -/
def readAsciiClass (cs : List Char) : Option ((Bool × CodePointSet) × List Char) :=
  match cs with
  | ':' :: cs =>
    let negated := cs.head? == some '^'
    let cs := if negated then cs.tail else cs
    match cs.dropWhile (· != ':') with
    | ':' :: ']' :: rest =>
      (asciiClass? (cs.takeWhile (· != ':'))).map fun s => ((negated, s), rest)
    | _ => none
  | _ => none

section

variable [Text.PropertyTables]

/-- Reads one character or escape. -/
def readUnit (free : Bool) : List Char → Option (Escape × List Char)
  | [] => none
  | '\\' :: cs => readEscape free cs
  | c :: cs => some (.char c, cs)

/-- The set of the characters from `lo` to `hi`, if there are any. -/
def rangeItem? (m : Modes) (lo hi : Escape) : Option SetItem :=
  match m.character? lo, m.character? hi with
  | some lo, some hi => if lo ≤ hi then (m.admitted (.range lo hi)).map ({ points := · }) else none
  | _, _ => none

/-- What a single character or escape stands for in brackets. -/
def item? (m : Modes) : Escape → Option SetItem
  | .named name negated => (m.named name negated).map ({ points := · })
  | .property s negated => (m.property s negated).map ({ points := · })
  | e => rangeItem? m e e

/-- The first character that is not blank, the mark of one comment not counted. -/
def peekFree (marked : Bool) : List Char → Option Char
  | [] => none
  | c :: cs =>
    if Text.isBlank c then peekFree marked cs
    else if c = '#' ∧ !marked then peekFree true cs
    else some c

/-- The character that a hyphen is followed by. -/
def peekSpaced (free : Bool) (cs : List Char) : Option Char :=
  if free then peekFree false cs else cs.head?

/-- Reads a character, an escape or a range. A hyphen before the closing bracket or before another
hyphen makes no range. -/
def readItem (m : Modes) (cs : List Char) : Option (SetItem × List Char) :=
  match readUnit m.freeForm cs with
  | none => none
  | some (first, rest) =>
    match skipSpace m.freeForm rest with
    | [] => none
    | '-' :: after =>
      if peekSpaced m.freeForm after = some ']' ∨ peekSpaced m.freeForm after = some '-' then
        (item? m first).map (·, '-' :: after)
      else
        match readUnit m.freeForm (skipSpace m.freeForm after) with
        | none => none
        | some (last, rest) => (rangeItem? m first last).map (·, rest)
    | c :: rest => (item? m first).map (·, c :: rest)

/-- Reads hyphens that stand for themselves at the start of a bracket. -/
def readHyphens (free : Bool) (b : OpenBracket) (cs : List Char) : OpenBracket × List Char :=
  match cs with
  | '-' :: rest => readHyphens free (b.add { points := .single '-' }) (skipSpace free rest)
  | cs => (b, cs)
termination_by cs.length
decreasing_by
  have := length_skipSpace_le free rest
  simp only [List.length_cons]
  omega

/-- Reads the start of a bracket after its opening: a caret, then hyphens or one closing bracket
that stand for themselves. -/
def readOpening (free : Bool) (cs : List Char) : OpenBracket × List Char :=
  let (negated, cs) := match skipSpace free cs with
    | '^' :: rest => (true, skipSpace free rest)
    | cs => (false, cs)
  match readHyphens free { negated } cs with
  | (⟨_, _, []⟩, ']' :: rest) =>
    ({ negated, items := [{ points := .single ']' }] }, skipSpace free rest)
  | (b, rest) => (b, rest)

/-! ## Brackets -/

/-- Where reading brackets stands: inside some, the innermost first, or after the outermost. -/
inductive BracketState where
  | inside (b : OpenBracket) (outer : List OpenBracket)
  | closed (item : SetItem)

/-- The state after the end of the innermost bracket. -/
def BracketState.leave (item : SetItem) : List OpenBracket → BracketState
  | [] => closed item
  | b :: outer => inside (b.add item) outer

/-- Reads one step inside brackets. -/
def stepBracket (m : Modes) (b : OpenBracket) (outer : List OpenBracket) :
    List Char → Option (BracketState × List Char)
  | [] => none
  | '[' :: cs =>
    match readAsciiClass cs with
    | some ((negated, s), rest) =>
      (m.adjusted negated s).map fun s => (.inside (b.add { points := s }) outer, rest)
    | none =>
      let (inner, rest) := readOpening m.freeForm cs
      some (.inside inner (b :: outer), rest)
  | ']' :: cs => (b.close? m).map fun item => (.leave item outer, cs)
  | '&' :: '&' :: cs => some (.inside (b.operate m .inter) outer, cs)
  | '-' :: '-' :: cs => some (.inside (b.operate m .diff) outer, cs)
  | '~' :: '~' :: cs => some (.inside (b.operate m .symmDiff) outer, cs)
  | cs => (readItem m cs).map fun (item, rest) => (.inside (b.add item) outer, rest)

end

/-! ## Every step moves on -/

theorem readAsciiClass_length {cs rest : List Char} {s : Bool × CodePointSet}
    (h : readAsciiClass cs = some (s, rest)) : rest.length ≤ cs.length := by
  unfold readAsciiClass at h
  split at h
  · rename_i t
    dsimp only at h
    generalize hu : (if (t.head? == some '^') = true then t.tail else t) = u at h
    have htu : u.length ≤ t.length := by
      subst hu
      split <;> simp
    split at h
    · rename_i r hr
      obtain ⟨_, _, h⟩ := Option.map_eq_some_iff.mp h
      obtain ⟨_, rfl⟩ := Prod.mk.inj h
      have := length_dropWhile_le (· != ':') u
      rw [hr] at this
      simp only [List.length_cons] at *
      omega
    · cases h
  · cases h

theorem length_readHyphens_le (free : Bool) (b : OpenBracket) (cs : List Char) :
    (readHyphens free b cs).2.length ≤ cs.length := by
  fun_induction readHyphens free b cs with
  | case1 b rest ih =>
    have := length_skipSpace_le free rest
    simp only [List.length_cons]
    omega
  | case2 => exact Nat.le_refl _

theorem length_readOpening_le (free : Bool) (cs : List Char) :
    (readOpening free cs).2.length ≤ cs.length := by
  have key : ∀ (negated : Bool) (ds : List Char), ds.length ≤ cs.length →
      (match readHyphens free { negated } ds with
        | (⟨_, _, []⟩, ']' :: rest) =>
          (({ negated, items := [{ points := .single ']' }] } : OpenBracket), skipSpace free rest)
        | (b, rest) => (b, rest)).2.length ≤ cs.length := by
    intro negated ds hd
    have h1 := length_readHyphens_le free { negated } ds
    split
    · rename_i rest hr
      have h2 := length_skipSpace_le free rest
      rw [hr] at h1
      simp only [List.length_cons] at h1
      change (skipSpace free rest).length ≤ cs.length
      omega
    · rename_i hr
      rw [hr] at h1
      exact Nat.le_trans h1 hd
  have h0 := length_skipSpace_le free cs
  unfold readOpening
  split
  rename_i negated ds hn
  refine key negated ds ?_
  split at hn
  · rename_i rest hr
    obtain ⟨_, rfl⟩ := Prod.mk.inj hn
    have := length_skipSpace_le free rest
    rw [hr] at h0
    simp only [List.length_cons] at h0
    omega
  · obtain ⟨_, rfl⟩ := Prod.mk.inj hn
    exact h0

variable [Text.PropertyTables]

theorem readUnit_length {free : Bool} {cs rest : List Char} {e : Escape}
    (h : readUnit free cs = some (e, rest)) : rest.length < cs.length := by
  unfold readUnit at h
  split at h
  · cases h
  · have := readEscape_length h
    simp only [List.length_cons]
    omega
  · obtain ⟨_, rfl⟩ := Prod.mk.inj (Option.some.inj h)
    simp

theorem readItem_length {m : Modes} {cs rest : List Char} {s : SetItem}
    (h : readItem m cs = some (s, rest)) : rest.length < cs.length := by
  unfold readItem at h
  split at h
  · cases h
  · rename_i first r hu
    have h1 := readUnit_length hu
    have h2 := length_skipSpace_le m.freeForm r
    split at h
    · cases h
    · rename_i after ha
      rw [ha] at h2
      split at h
      · obtain ⟨_, _, h⟩ := Option.map_eq_some_iff.mp h
        obtain ⟨_, rfl⟩ := Prod.mk.inj h
        omega
      · split at h
        · cases h
        · rename_i hl
          have h3 := readUnit_length hl
          have h4 := length_skipSpace_le m.freeForm after
          obtain ⟨_, _, h⟩ := Option.map_eq_some_iff.mp h
          obtain ⟨_, rfl⟩ := Prod.mk.inj h
          simp only [List.length_cons] at h2
          omega
    · rename_i hc
      rw [hc] at h2
      obtain ⟨_, _, h⟩ := Option.map_eq_some_iff.mp h
      obtain ⟨_, rfl⟩ := Prod.mk.inj h
      omega

theorem stepBracket_length {m : Modes} {b : OpenBracket} {outer : List OpenBracket}
    {cs rest : List Char} {st : BracketState}
    (h : stepBracket m b outer cs = some (st, rest)) : rest.length < cs.length := by
  unfold stepBracket at h
  split at h
  case h_1 => cases h
  case h_2 cs =>
    split at h
    · rename_i ha
      obtain ⟨_, _, h⟩ := Option.map_eq_some_iff.mp h
      obtain ⟨_, rfl⟩ := Prod.mk.inj h
      exact Nat.lt_succ_of_le (readAsciiClass_length ha)
    · obtain ⟨_, rfl⟩ := Prod.mk.inj (Option.some.inj h)
      exact Nat.lt_succ_of_le (length_readOpening_le ..)
  case h_3 =>
    obtain ⟨_, _, h⟩ := Option.map_eq_some_iff.mp h
    obtain ⟨_, rfl⟩ := Prod.mk.inj h
    simp
  case h_4 | h_5 | h_6 =>
    obtain ⟨_, rfl⟩ := Prod.mk.inj (Option.some.inj h)
    simp only [List.length_cons]
    omega
  case h_7 =>
    obtain ⟨⟨_, _⟩, hi, h⟩ := Option.map_eq_some_iff.mp h
    obtain ⟨_, rfl⟩ := Prod.mk.inj h
    exact readItem_length hi

/-- Reads on inside brackets until the outermost is closed. -/
def readInside (m : Modes) (b : OpenBracket) (outer : List OpenBracket) (cs : List Char) :
    Option (SetItem × List Char) :=
  match _h : stepBracket m b outer (skipSpace m.freeForm cs) with
  | none => none
  | some (.closed item, rest) => some (item, rest)
  | some (.inside b outer, rest) => readInside m b outer rest
termination_by cs.length
decreasing_by exact Nat.lt_of_lt_of_le (stepBracket_length _h) (length_skipSpace_le ..)

/-- Reads a bracketed set after its opening bracket. -/
def readBracket (m : Modes) (cs : List Char) : Option (SetItem × List Char) :=
  let (b, rest) := readOpening m.freeForm cs
  readInside m b [] rest

theorem readInside_length {m : Modes} {b : OpenBracket} {outer : List OpenBracket}
    {cs rest : List Char} {item : SetItem}
    (h : readInside m b outer cs = some (item, rest)) : rest.length ≤ cs.length := by
  fun_induction readInside m b outer cs with
  | case1 => cases h
  | case2 b outer cs _ _ hs =>
    obtain ⟨_, rfl⟩ := Prod.mk.inj (Option.some.inj h)
    exact Nat.le_trans (Nat.le_of_lt (stepBracket_length hs)) (length_skipSpace_le ..)
  | case3 b outer cs _ _ r hs ih =>
    have h1 := stepBracket_length hs
    have h2 := length_skipSpace_le m.freeForm cs
    have h3 := ih h
    omega

theorem readBracket_length {m : Modes} {cs rest : List Char} {item : SetItem}
    (h : readBracket m cs = some (item, rest)) : rest.length ≤ cs.length :=
  Nat.le_trans (readInside_length h) (length_readOpening_le m.freeForm cs)

end Motif.Regex
