import Motif.Match.Advance

/-!
# Walks without a stack

A node that is tried reports something of its own (`Node.own`) and leaves nodes that are still to be
tried on the stack (`Node.pushed`). A walk over a stack reports what walks from its nodes report one
after the other, so the stack plays no part in what a node reports.

* `walk_cons`: one turn of a walk.
* `walk_append`: a walk over one stack on top of another.
* `walk_single`: the report of a node from the reports of the nodes it leads to.
-/

namespace Motif.Graph

variable [RegexEngine]

variable {g : Graph} {counting : Pattern.Counting} {sym : Symbol}

/-- What the node numbered `id` reports by itself, when `v` says what the nodes report that it leads
to. -/
def Node.own (g : Graph) (counting : Pattern.Counting) (sym : Symbol) (v : Nat → Report)
    (id : Nat) : Node → Report
  | atom a next => g.stepIf (takesToken a sym) next
  | anchor s next => g.stepIf (sym = .sentinel s) next
  | sequence .. | alternation .. => ∅
  | repetition body span next => g.stepRepetition counting id body span next 0 (v body)
  | negation body next => g.stepNegation id next sym (v body)

/-- The nodes that a node leaves to be tried with the same symbol. -/
def Node.pushed (g : Graph) : Node → List Nat
  | atom .. | anchor .. | negation .. => []
  | sequence head _ => [head]
  | alternation branches _ => branches
  | repetition body span next =>
    if span.min == 0 || g.isNullable body then next.toList else []

/-- Only links of the node are put on the stack. -/
theorem Node.pushed_sublist (g : Graph) (n : Node) : (n.pushed g).Sublist n.links := by
  cases n with
  | atom a next | anchor s next | negation body next => exact List.nil_sublist _
  | sequence head exit | alternation branches exit => exact List.sublist_append_left ..
  | repetition body span next =>
    show (if _ then _ else []).Sublist ([body] ++ next.toList)
    split
    · exact List.sublist_append_right ..
    · exact List.nil_sublist _

@[simp] theorem walk_nil : g.walk counting sym [] = ∅ := by
  rw [walk]

/-- An id without a node is taken from the stack and adds nothing. -/
theorem walk_cons_of_none {id : Nat} (h : g.node? id = none) (stack : List Nat) :
    g.walk counting sym (id :: stack) = g.walk counting sym stack := by
  rw [walk]
  split <;> simp_all

/-- **One turn of a walk**: a node reports, and what it leaves goes on the stack. -/
theorem walk_cons {id : Nat} {n : Node} (h : g.node? id = some n) (stack : List Nat) :
    g.walk counting sym (id :: stack) =
      n.own g counting sym (fun l => g.walk counting sym [l]) id ++
        g.walk counting sym (n.pushed g ++ stack) := by
  rw [walk]
  split
  case h_1 hn => exact absurd (hn.symm.trans h) (by simp)
  all_goals
    rename_i hn
    obtain rfl := Option.some.inj (hn.symm.trans h)
    simp [Node.own, Node.pushed]

/-- **A walk over one stack on top of another** reports what the two report. -/
theorem walk_append (a b : List Nat) :
    g.walk counting sym (a ++ b) = g.walk counting sym a ++ g.walk counting sym b := by
  induction h : g.stackPaths a using Nat.strongRecOn generalizing a with
  | ind k ih =>
    subst h
    cases a with
    | nil => simp
    | cons id stack =>
      rw [List.cons_append]
      cases hn : g.node? id with
      | none =>
        have hlt : g.stackPaths stack < g.stackPaths (id :: stack) := by
          have := paths_pos g id
          simp only [stackPaths, List.map_cons, total_cons]
          omega
        rw [walk_cons_of_none hn, walk_cons_of_none hn, ih _ hlt _ rfl]
      | some n =>
        have hlt := stackPaths_lt hn stack (n.pushed_sublist g)
        rw [walk_cons hn, walk_cons hn, ← List.append_assoc, ih _ hlt _ rfl,
          Report.append_assoc]

/-- The walk of a stack is the walks of its entries, one after the other. -/
theorem walk_eq_join (stack : List Nat) :
    g.walk counting sym stack = .join (stack.map fun l => g.walk counting sym [l]) := by
  induction stack with
  | nil => simp
  | cons id stack ih =>
    rw [List.map_cons, Report.join_cons, ← ih, ← walk_append, List.singleton_append]

/-- **The report of a node** comes from the reports of the nodes it leads to. -/
theorem walk_single {id : Nat} {n : Node} (h : g.node? id = some n) :
    g.walk counting sym [id] =
      n.own g counting sym (fun l => g.walk counting sym [l]) id ++
        .join ((n.pushed g).map fun l => g.walk counting sym [l]) := by
  rw [walk_cons h, List.append_nil, walk_eq_join (n.pushed g)]

theorem walk_single_of_none {id : Nat} (h : g.node? id = none) :
    g.walk counting sym [id] = ∅ := by
  rw [walk_cons_of_none h, walk_nil]

/-! ## Threads by the nodes they are in -/

/-- A thread in a repetition advances by its threads in the body, and then steps the repetition. -/
theorem advance_repetition {id body : Nat} {span : Pattern.Span} {next : Option Nat}
    (h : g.node? id = some (.repetition body span next)) (count : Nat) (ts : List Thread) :
    g.advance counting sym (.repetition id count ts) =
      g.stepRepetition counting id body span next count
        (.join (ts.map (g.advance counting sym))) := by
  rw [advance, h]

/-- A thread that is not in a repetition of the graph is dropped. -/
theorem advance_repetition_of_forall_ne {id : Nat}
    (h : ∀ body span next, g.node? id ≠ some (.repetition body span next)) (count : Nat)
    (ts : List Thread) : g.advance counting sym (.repetition id count ts) = ∅ := by
  rw [advance]
  split
  · rename_i hn
    exact absurd hn (h _ _ _)
  · rfl

/-- A thread in a negation advances by its threads in the body, and then steps the negation. -/
theorem advance_negation {id body : Nat} {next : Option Nat}
    (h : g.node? id = some (.negation body next)) (ts : List Thread) :
    g.advance counting sym (.negation id ts) =
      g.stepNegation id next sym (.join (ts.map (g.advance counting sym))) := by
  rw [advance, h]

theorem advance_negation_of_forall_ne {id : Nat}
    (h : ∀ body next, g.node? id ≠ some (.negation body next)) (ts : List Thread) :
    g.advance counting sym (.negation id ts) = ∅ := by
  rw [advance]
  split
  · rename_i hn
    exact absurd hn (h _ _)
  · rfl

end Motif.Graph
