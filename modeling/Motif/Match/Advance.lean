import Motif.Graph.Basic
import Motif.Match.Report
import Motif.Total

/-!
# Advancing threads (specification §4.2 to §4.6, E4)

How a thread takes a symbol. A thread before a node tries that node and every node that can be
reached from there without a symbol: the head of a sequence, all branches of an alternation, and
what comes after a repetition that may be skipped. They are tried from left to right with a stack
of the nodes still to be tried, since chains of optional elements can be long.

The walk ends because links lead to smaller numbers: `paths` counts the ways down from a node, and
the stack never has more of them than before.

`walk` is `enter`, `leave` is `exit`, `stepRepetition` and `stepNegation` are `step_repeat` and
`step_negation`; `advance` and `step` go by these names.

Out of scope: that identical threads are dropped as soon as they are reported. Here a report keeps
them until its threads are asked for (`Report.distinct`).
-/

namespace Motif.Graph

variable [RegexEngine]

/-! ## Ways down -/

/-- The number of ways down along links from a node. -/
def paths (g : Graph) (id : Nat) : Nat :=
  match h : g.node? id with
  | none => 1
  | some n => 1 + total (n.links.attach.map fun l => paths g l.1)
termination_by id
decreasing_by exact link_lt h l.2

theorem paths_eq {g : Graph} {id : Nat} {n : Node} (h : g.node? id = some n) :
    g.paths id = 1 + total (n.links.map g.paths) := by
  rw [paths]
  split
  · rename_i hn
    exact absurd (hn.symm.trans h) (by simp)
  · rename_i m hm
    obtain rfl := Option.some.inj (hm.symm.trans h)
    rw [List.attach_map_val (f := g.paths)]

theorem paths_pos (g : Graph) (id : Nat) : 0 < g.paths id := by
  rw [paths]
  split <;> omega

/-- The nodes on a stack have this many ways down in all. -/
def stackPaths (g : Graph) (stack : List Nat) : Nat :=
  total (stack.map g.paths)

theorem stackPaths_lt {g : Graph} {id : Nat} {n : Node} (h : g.node? id = some n)
    (stack : List Nat) {pushed : List Nat} (hp : pushed.Sublist n.links) :
    g.stackPaths (pushed ++ stack) < g.stackPaths (id :: stack) := by
  have : total (pushed.map g.paths) ≤ total (n.links.map g.paths) :=
    total_le_of_sublist (hp.map _)
  simp only [stackPaths, List.map_append, List.map_cons, total_append, total_cons, paths_eq h]
  omega

/-! ## Leaving and stepping nodes -/

/-- What is reported after a node: the thread before the next one, and that the scope is complete if
nothing has to follow. -/
def leave (g : Graph) : (next : Option Nat) → Report
  | none => { completed := true }
  | some id => { threads := [.before id], completed := g.isNullable id }

/-- What a repetition with `count` complete repetitions reports when the threads of the next one
report `inner`: that one going on, a further one if there may be one, and what comes after if the
repetitions are enough. A repetition of something that may be empty is always enough. -/
def stepRepetition (g : Graph) (counting : Pattern.Counting) (id body : Nat) (span : Pattern.Span)
    (next : Option Nat) (count : Nat) (inner : Report) : Report :=
  let threads := inner.distinct
  let running : Report :=
    if threads.isEmpty then ∅ else { threads := [.repetition id count threads] }
  let counted := counting span count
  let again : Report :=
    if span.allowsMore counted then { threads := [.repetition id counted [.before body]] } else ∅
  let after : Report :=
    if span.isSatisfied counted || g.isNullable body then g.leave next else ∅
  { running ++ (if inner.completed then again ++ after else ∅) with
    progressed := inner.progressed }

/-- What a negation reports when the threads of its body report `inner`. As long as the body makes
progress the negation goes on; the first token with which it makes none is the one it takes. A
sentinel is never taken. -/
def stepNegation (g : Graph) (id : Nat) (next : Option Nat) (sym : Symbol) (inner : Report) :
    Report :=
  match sym with
  | .sentinel _ => ∅
  | .token _ =>
    if inner.progressed then { threads := [.negation id inner.distinct], progressed := true }
    else { g.leave next with progressed := true }

/-- What a node that takes one symbol reports. -/
def stepIf (g : Graph) (accepted : Bool) (next : Option Nat) : Report :=
  if accepted then { g.leave next with progressed := true } else ∅

/-- Whether an atom takes a symbol. -/
def takesToken (a : Pattern.Atom) : Symbol → Bool
  | .token t => a.accepts t
  | .sentinel _ => false

/-! ## Walks and threads -/

/-- What is reported by the nodes on a stack, and by those reached from them without a symbol. -/
def walk (g : Graph) (counting : Pattern.Counting) (sym : Symbol) (stack : List Nat) : Report :=
  match stack with
  | [] => ∅
  | id :: stack =>
    match _h : g.node? id with
    | none => walk g counting sym stack
    | some (.atom a next) => g.stepIf (takesToken a sym) next ++ walk g counting sym stack
    | some (.anchor s next) => g.stepIf (sym = .sentinel s) next ++ walk g counting sym stack
    | some (.sequence head _) => walk g counting sym (head :: stack)
    | some (.alternation branches _) => walk g counting sym (branches ++ stack)
    | some (.repetition body span next) =>
      let skipped := if span.min == 0 || g.isNullable body then next.toList else []
      g.stepRepetition counting id body span next 0 (walk g counting sym [body]) ++
        walk g counting sym (skipped ++ stack)
    | some (.negation body next) =>
      g.stepNegation id next sym (walk g counting sym [body]) ++ walk g counting sym stack
termination_by g.stackPaths stack
decreasing_by
  · have := paths_pos g id
    simp only [stackPaths, List.map_cons, total_cons]
    omega
  · exact stackPaths_lt _h stack (List.nil_sublist _)
  · exact stackPaths_lt _h stack (List.nil_sublist _)
  · exact stackPaths_lt _h stack (List.sublist_append_left [head] _)
  · exact stackPaths_lt _h stack (List.sublist_append_left branches _)
  · have := stackPaths_lt _h stack (List.sublist_append_left [body] _)
    simp only [stackPaths, List.map_append, total_append] at *
    omega
  · refine stackPaths_lt _h stack ?_
    split
    · exact List.sublist_append_right ..
    · exact List.nil_sublist _
  · have := stackPaths_lt _h stack (List.sublist_append_left [body] _)
    simp only [stackPaths, List.map_append, total_append] at *
    omega
  · exact stackPaths_lt _h stack (List.nil_sublist _)

/-- What a thread reports. -/
def advance (g : Graph) (counting : Pattern.Counting) (sym : Symbol) : Thread → Report
  | .before id => g.walk counting sym [id]
  | .repetition id count threads =>
    let inner : Report := .join (threads.map (advance g counting sym))
    match g.node? id with
    | some (.repetition body span next) => g.stepRepetition counting id body span next count inner
    | _ => ∅
  | .negation id threads =>
    let inner : Report := .join (threads.map (advance g counting sym))
    match g.node? id with
    | some (.negation _ next) => g.stepNegation id next sym inner
    | _ => ∅

/-- What threads report, together with a new attempt. The new one comes last, so that the older ones
keep their places when there are too many. -/
def step (g : Graph) (counting : Pattern.Counting) (threads : List Thread) (sym : Symbol) :
    Report :=
  .join ((threads ++ [Thread.before g.entry]).map (g.advance counting sym))

end Motif.Graph
