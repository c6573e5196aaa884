import Motif.Regex.Normal
import Motif.Text.Utf8
import Std.Data.HashMap

/-!
# Sizes of expressions

An expression is too large when an automaton for it would be: one that reads texts byte by byte
forwards, and one that reads them backwards. The size of an automaton is counted in bytes. Every
state takes 32, every range of bytes that a branching state tells apart takes 8, and every way on
from a state of choice takes 4.

Repetitions are spelled out, so the automaton for `r{3}` holds three for `r`. How many states a set
of characters beyond ASCII takes depends on which states are shared between its byte sequences.

A `Plan` says what an automaton is made of, in the order in which its states are numbered; laying it
out adds up sizes and stops as soon as the limit is passed.

* `checked_eq_some_iff`: a size passes if it is within the limit.
-/

namespace Motif.Regex

open Text (Block ByteRange)

/-- The direction in which a text is read. -/
inductive Direction where
  | forward
  | backward
  deriving DecidableEq

/-- A list as it is met in the direction. -/
def Direction.order {α : Type} (d : Direction) (xs : List α) : List α :=
  match d with
  | forward => xs
  | backward => xs.reverse

/-! ## Sizes -/

/-- The size of an automaton: how many states it has, and the bytes that come on top. -/
structure Size where
  states : Nat := 0
  extra : Nat := 0

namespace Size

/-- The bytes that an automaton takes. -/
def bytes (s : Size) : Nat :=
  32 * s.states + s.extra

/-- The most bytes that an automaton may take: ten MiB. -/
def limit : Nat :=
  10 * 1024 * 1024

/-- The size after more states. -/
def grow (s : Size) (states extra : Nat) : Size :=
  ⟨s.states + states, s.extra + extra⟩

/-- The size, unless the limit is passed. -/
def checked (s : Size) : Option Size :=
  if s.bytes ≤ limit then some s else none

theorem checked_eq_some_iff {s t : Size} : s.checked = some t ↔ s = t ∧ s.bytes ≤ limit := by
  unfold checked
  split
  · rename_i h
    exact ⟨fun hs => ⟨Option.some.inj hs, h⟩, fun hs => congrArg some hs.1⟩
  · rename_i h
    exact ⟨(nomatch ·), fun hs => absurd hs.2 h⟩

end Size

/-! ## Sets of characters

States that go on alike are shared as far as they are remembered. The memory has a fixed number of
slots; a state is kept in the slot that its hash points at, until another takes the slot. -/

/-- An automaton while the states for a set are added to it: its size, and the states in memory,
each with what it was made of and its number. -/
structure Draft where
  size : Size
  memory : Std.HashMap Nat (List Nat × Nat) := ∅

/-- The hash of a list of numbers. -/
def hash (key : List Nat) : UInt64 :=
  key.foldl (fun h n => (h ^^^ n.toUInt64) * 1099511628211) 14695981039346656037

/-- The draft after one more state, which takes the slot. -/
def Draft.added (d : Draft) (slot : Nat) (key : List Nat) (extra : Nat) : Nat × Draft :=
  let n := d.size.states
  (n, { size := d.size.grow 1 extra, memory := d.memory.insert slot (key, n) })

/-- The number of the state that is made of `key`, which is added if no such state is
remembered. -/
def Draft.state (d : Draft) (slots : Nat) (key : List Nat) (extra : Nat) : Nat × Draft :=
  let slot := (hash key).toNat % slots
  match d.memory[slot]? with
  | some (key', n) => if key' = key then (n, d) else d.added slot key extra
  | none => d.added slot key extra

/-- A state that may still get more ways on: those that it has, each as its first and last byte and
the state it leads to, the numbers last first, and the bytes that lead to the next open state. -/
structure OpenState where
  ways : List Nat
  bytes : ByteRange

/-- All ways on from an open state, if its last one leads to the state `next`. -/
def OpenState.allWays (o : OpenState) (next : Nat) : List Nat :=
  next :: o.bytes.last :: o.bytes.first :: o.ways

/-- The states of a path from the last one on. -/
def closePath (target : Nat) : List OpenState → Draft → Nat × Draft
  | [], d => (target, d)
  | o :: os, d =>
    let (next, d) := closePath target os d
    let ways := o.allWays next
    d.state 10000 ways.reverse (8 * (ways.length / 3))

/-- Adds a block to the path of the block before. The states after the first difference are
closed. -/
def addBlock (target : Nat) : Block → List OpenState → Draft → List OpenState × Draft
  | r :: rs, o :: os, d =>
    if r = o.bytes then
      let (os, d) := addBlock target rs os d
      (o :: os, d)
    else
      let (next, d) := closePath target os d
      (⟨o.allWays next, r⟩ :: rs.map (⟨[], ·⟩), d)
  | rs, _, d => (rs.map (⟨[], ·⟩), d)

/-- The size after the states for a set that is read forwards, which share what they go on with. -/
def growForward (blocks : List Block) (s : Size) : Size :=
  let target := s.states
  let (path, d) := blocks.foldl (fun (path, d) b => addBlock target b path d)
    (([], { size := s.grow 1 0 }) : List OpenState × Draft)
  (closePath target path d).2.size

/-- The size after the states for a set that is read backwards: a choice between all blocks, which
share the states near their first bytes. -/
def growBackward (blocks : List Block) (s : Size) : Size :=
  let target := s.states + 1
  (blocks.foldl (fun d b =>
    (b.foldl (fun ((next, d) : Nat × Draft) r => d.state 1000 [next, r.first, r.last] 0)
      (target, d)).2) ({ size := s.grow 2 (4 * blocks.length) } : Draft)).size

/-! ## Choices between literals -/

/-- The beginnings that literals share: the ways on from a state, the last first, with the places
where a literal ends between them. Only ways since the last such place are shared. -/
inductive Trie where
  | nil
  | way (byte : UInt8) (next rest : Trie)
  | stop (rest : Trie)

namespace Trie

/-- Changes what a byte leads to, if there is a way for it since the last end of a literal. -/
def modify? (byte : UInt8) (f : Trie → Trie) : Trie → Option Trie
  | way b next rest =>
    if b = byte then some (way b (f next) rest) else (modify? byte f rest).map (way b next)
  | _ => none

/-- Adds a literal. -/
def insert : List UInt8 → Trie → Trie
  | [], stop nil => stop nil
  | [], t => stop t
  | b :: bs, t => (t.modify? b (insert bs)).getD (way b (insert bs nil) t)

/-- Whether nothing follows. -/
def isLeaf : Trie → Bool
  | nil | stop nil => true
  | _ => false

/-- The size of a branching state with so many ways on, and of the way that leads to it. -/
def branching : Nat → Size
  | 0 => {}
  | 1 => ⟨1, 4⟩
  | n => ⟨1, 8 * n + 4⟩

/-- The size of the states for literals, after so many ways since the last end of one. -/
def size : Trie → (ways : Nat) → Size
  | nil, ways => branching ways
  | stop rest, ways =>
    let s := rest.size 0
    (s.grow (branching ways).states (branching ways).extra).grow 0 4
  | way _ next rest, ways =>
    let s := rest.size (ways + 1)
    if next.isLeaf then s
    else
      let t := next.size 0
      s.grow (t.states + 1) t.extra

end Trie

/-! ## Plans -/

/-- What an automaton is made of. -/
inductive Plan where
  | states (count extra : Nat)
  | set (blocks : List Block)
  | seq (ps : List Plan)
  | times (n : Nat) (p : Plan)

/-- `f` applied `n` times. -/
def iterate? (f : Size → Option Size) : Nat → Size → Option Size
  | 0, s => some s
  | n + 1, s =>
    match f s with
    | some s => iterate? f n s
    | none => none

mutual

/-- The size after the states of a plan, unless the limit is passed. -/
def Plan.lay (d : Direction) : Plan → Size → Option Size
  | .states count extra, s => (s.grow count extra).checked
  | .set blocks, s =>
    match d with
    | .forward => (growForward blocks s).checked
    | .backward => (growBackward blocks s).checked
  | .seq ps, s => Plan.layAll d ps s
  | .times n p, s => iterate? (p.lay d) n s

/-- The size after the states of some plans, unless the limit is passed. -/
def Plan.layAll (d : Direction) : List Plan → Size → Option Size
  | [], s => some s
  | p :: ps, s => (p.lay d s).bind (Plan.layAll d ps)

end

/-- The plan of a repetition. `takes` says that what is repeated is never empty; otherwise it must
not be possible to repeat it without end. -/
def Plan.repeated (p : Plan) (takes : Bool) (min : Nat) : Option Nat → Plan
  | none =>
    if 0 < min then .seq [.times min p, .states 1 8]
    else if takes then .seq [.states 1 8, p]
    else .seq [p, .states 3 16]
  | some max =>
    if min = max then .times min p
    else if min = 0 ∧ max = 1 then .seq [.states 1 8, p, .states 1 0]
    else .seq [if min = 0 then .states 1 0 else .times min p, .states 1 0,
      .times (max - min) (.seq [.states 1 8, p])]

namespace Normal

/-- The bytes of a literal. -/
def bytes? : Normal → Option (List UInt8)
  | literal cs => some (cs.flatMap String.utf8EncodeChar)
  | _ => none

/-- The plan for an expression. Groups are marked only in the automaton that reads forwards. -/
def plan (d : Direction) : Normal → Plan
  | empty | look _ => .states 1 0
  | literal cs => .states (total (cs.map (·.utf8Size))) 0
  | set s => if s.isAscii then .states 2 (8 * s.runs.length) else .set s.blocks
  | concat rs => .seq (d.order (rs.map (plan d)))
  | alternation rs =>
    match rs.mapM bytes? with
    | some ws =>
      let s := (ws.foldl (fun t w => t.insert (d.order w)) Trie.nil).size 0
      .states (s.states + 2) s.extra
    | none =>
      let ps := rs.map (plan d)
      .seq (ps.take 2 ++ .states 2 (4 * ps.length) :: ps.drop 2)
  | capture r =>
    match d with
    | .forward => .seq [.states 1 0, r.plan d, .states 1 0]
    | .backward => r.plan d
  | repetition r min max _ => (r.plan d).repeated (r.minLength?.any (0 < ·)) min max

/-- Whether the first of some expressions that takes characters, or one before it, is anchored. For
each is given whether it is anchored and whether it takes none. -/
def leads : List (Bool × Bool) → Bool
  | [] => false
  | (anchored, zeroWidth) :: rest => anchored || (zeroWidth && leads rest)

/-- Whether all matches are seen to begin where the text, read in the direction, begins. -/
def isAnchored (d : Direction) : Normal → Bool
  | look l => l == match d with | .forward => .textStart | .backward => .textEnd
  | concat rs => leads (d.order (rs.map fun r => (r.isAnchored d, r.isZeroWidth)))
  | alternation rs => (rs.map (isAnchored d)).all id
  | capture r => r.isAnchored d
  | repetition r min .. => 0 < min && r.isAnchored d
  | _ => false

/-- The plan for an expression that is searched for: any bytes may come before it unless it is
anchored, and a last state says that it has matched. -/
def wholePlan (d : Direction) (r : Normal) : Plan :=
  .seq [if r.isAnchored d then .states 1 0 else .states 3 16, (capture r).plan d, .states 1 0]

/-- Whether the automaton for a direction is within the limit. -/
def fits (r : Normal) (d : Direction) : Bool :=
  ((r.wholePlan d).lay d {}).isSome

end Normal

/-- Whether the automata for both directions are within the limit. -/
def isWithinLimit (r : Regex) : Bool :=
  let n := r.normal
  n.fits .forward && n.fits .backward

end Motif.Regex
