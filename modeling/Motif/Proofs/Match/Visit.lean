import Motif.Proofs.Match.Lookup
import Motif.Regex.Standard

/-!
# Walks with a stack and visits by recursion (specification §9, E3)

A node can be tried by recursion along its links: `Graph.visit` says what it reports then. A matcher
tries nodes in a loop instead, with a stack of those still to be tried, and gathers what is reported
in one place, where each thread is kept once. `Graph.Walks` says how the loop runs turn by turn, and
`Graph.Feeds` how a thread is fed: there is a derivation just for a run that ends, and none for one
that meets a number without a node.

* `walk_eq_visit`: a walk from a node reports what a visit does.
* `Walks.eq`, `Feeds.eq`: a run that ends has gathered what is reported, in the same order.
* `walks_walk`, `ends_of_inScope`: every run ends.
* **`walks_iff_visit`**: both, for the nodes of a pattern and the threads of its matchers.
-/

namespace Motif

/-- A report of nothing adds no progress. -/
theorem Report.or_progressed_empty (p : Bool) : (p || (∅ : Report).progressed) = p :=
  Bool.or_false p

/-- At most one node is left behind by a repetition, so its order on the stack does not matter. -/
theorem reverse_skipped (skip : Bool) (next : Option Nat) :
    (if skip then next.toList else []).reverse = if skip then next.toList else [] := by
  cases skip <;> cases next <;> rfl

/-! ## Gathering what is reported -/

/-- What has been gathered from reports: the threads, each once, in the order in which they were
first reported, and whether the scope is complete. -/
structure Gathered where
  threads : List Thread := []
  completed : Bool := false

namespace Gathered

/-- A list of threads with one more at its end, unless it is there already. -/
def insert (threads : List Thread) (t : Thread) : List Thread :=
  if t ∈ threads then threads else threads ++ [t]

/-- Gathers one more thread. -/
def push (o : Gathered) (t : Thread) : Gathered :=
  { o with threads := insert o.threads t }

/-- Gathers that the scope is complete. -/
def complete (o : Gathered) : Gathered :=
  { o with completed := true }

/-- Gathers a whole report. -/
def add (o : Gathered) (r : Report) : Gathered where
  threads := r.threads.foldl insert o.threads
  completed := o.completed || r.completed

variable (o : Gathered)

@[simp] theorem add_empty : o.add ∅ = o := by
  obtain ⟨ts, c⟩ := o
  show Gathered.mk _ _ = _
  simp [EmptyCollection.emptyCollection]

theorem add_append (r s : Report) : o.add (r ++ s) = (o.add r).add s := by
  simp [add, Bool.or_assoc]

theorem add_ite (b : Bool) (r : Report) :
    o.add (if b then r else ∅) = if b then o.add r else o := by
  cases b with
  | false => exact o.add_empty
  | true => rfl

/-- Progress is not gathered. -/
theorem add_withProgress (r : Report) (progressed : Bool) :
    o.add { r with progressed } = o.add r := rfl

theorem add_thread (t : Thread) : o.add { threads := [t] } = o.push t := by
  simp [add, push]

theorem foldl_insert (threads ts : List Thread) :
    ts.foldl insert threads = threads ++ (ts.filter (· ∉ threads)).eraseDups := by
  induction ts generalizing threads with
  | nil => simp
  | cons t ts ih =>
    rw [List.foldl_cons, ih, insert]
    split
    · rename_i h
      rw [List.filter_cons_of_neg (by simpa using h)]
    · rename_i h
      rw [List.filter_cons_of_pos (by simpa using h), List.eraseDups_cons, List.filter_filter,
        List.append_assoc, List.singleton_append]
      congr 4
      funext u
      simp [Bool.and_comm, Bool.beq_eq_decide_eq]

/-- What is gathered from a report is what is distinct in it. -/
theorem empty_add (r : Report) : add {} r = ⟨r.distinct, r.completed⟩ := by
  rw [Report.distinct_eq]
  simp [add, foldl_insert]

end Gathered

section

variable [RegexEngine]

/-! ## Visits -/

namespace Graph

variable {g : Graph} {counting : Pattern.Counting} {sym : Symbol}

/-- What a node and those reached from it without a symbol report, by recursion along links. An atom
and an anchor try the symbol, a sequence visits its head and an alternation its branches from left
to right. A repetition begins with its body, and then visits what comes after it if it may be
skipped; a negation begins with its body. -/
def visit (g : Graph) (counting : Pattern.Counting) (sym : Symbol) (id : Nat) : Report :=
  match _h : g.node? id with
  | none => ∅
  | some (.atom a next) => g.stepIf (takesToken a sym) next
  | some (.anchor s next) => g.stepIf (sym = .sentinel s) next
  | some (.sequence head _) => visit g counting sym head
  | some (.alternation branches _) =>
    .join (branches.attach.map fun l => visit g counting sym l.1)
  | some (.repetition body span next) =>
    g.stepRepetition counting id body span next 0 (visit g counting sym body) ++
      if span.min == 0 || g.isNullable body then
        .join (next.toList.attach.map fun l => visit g counting sym l.1)
      else ∅
  | some (.negation body next) => g.stepNegation id next sym (visit g counting sym body)
termination_by id
decreasing_by
  · exact link_lt _h List.mem_cons_self
  · exact link_lt _h (List.mem_append_left _ l.2)
  · exact link_lt _h List.mem_cons_self
  · exact link_lt _h (List.mem_append_right _ l.2)
  · exact link_lt _h List.mem_cons_self

theorem visit_of_none {id : Nat} (h : g.node? id = none) : g.visit counting sym id = ∅ := by
  rw [visit]
  split <;> simp_all

/-- **A visit** reports what the node reports by itself, and what is reported where it leads to. -/
theorem visit_eq {id : Nat} {n : Node} (h : g.node? id = some n) :
    g.visit counting sym id =
      n.own g counting sym (g.visit counting sym) id ++
        .join ((n.pushed g).map (g.visit counting sym)) := by
  rw [visit]
  split
  case h_1 hn => exact absurd (hn.symm.trans h) (by simp)
  case h_6 body span next hn =>
    obtain rfl := Option.some.inj (hn.symm.trans h)
    rw [Node.own, Node.pushed, List.attach_map_val (f := g.visit counting sym)]
    congr 1
    split <;> rfl
  all_goals
    rename_i hn
    obtain rfl := Option.some.inj (hn.symm.trans h)
    simp [Node.own, Node.pushed]

/-- **A walk from a node** reports what a visit does. -/
theorem walk_eq_visit (id : Nat) : g.walk counting sym [id] = g.visit counting sym id := by
  induction id using Nat.strongRecOn with
  | ind id ih =>
    cases hn : g.node? id with
    | none => rw [walk_single_of_none hn, visit_of_none hn]
    | some n =>
      rw [walk_single hn, visit_eq hn]
      congr 1
      · cases n with
        | atom a next | anchor s next => rfl
        | sequence head exit | alternation branches exit => rfl
        | repetition body span next | negation body next =>
          rw [Node.own, Node.own, ih body (link_lt hn List.mem_cons_self)]
      · refine congrArg _ (List.map_congr_left fun l hl => ih l ?_)
        exact link_lt hn ((n.pushed_sublist g).subset hl)

end Graph

namespace Gathered

/-- Gathers what comes after a node. -/
def leave (o : Gathered) (g : Graph) (next : Option Nat) : Gathered :=
  match next with
  | none => o.complete
  | some id => if g.isNullable id then (o.push (.before id)).complete else o.push (.before id)

/-- Gathers what a repetition goes on as, once `inner` has been gathered from its threads. -/
def stepRepetition (o : Gathered) (g : Graph) (counting : Pattern.Counting) (id body : Nat)
    (span : Pattern.Span) (next : Option Nat) (count : Nat) (inner : Gathered) : Gathered :=
  let o := if inner.threads.isEmpty then o else o.push (.repetition id count inner.threads)
  if inner.completed then
    let counted := counting span count
    let o := if span.allowsMore counted then o.push (.repetition id counted [.before body]) else o
    if span.isSatisfied counted || g.isNullable body then o.leave g next else o
  else o

variable (o : Gathered)

theorem add_leave (g : Graph) (next : Option Nat) : o.add (g.leave next) = o.leave g next := by
  cases next with
  | none => simp [add, Graph.leave, leave, complete]
  | some id =>
    simp only [add, Graph.leave, leave, complete, push, List.foldl_cons, List.foldl_nil]
    split <;> simp [*]

/-- What a repetition reports is gathered piece by piece. -/
theorem add_stepRepetition (g : Graph) (counting : Pattern.Counting) (id body : Nat)
    (span : Pattern.Span) (next : Option Nat) (count : Nat) (r : Report) :
    o.add (g.stepRepetition counting id body span next count r) =
      o.stepRepetition g counting id body span next count (add {} r) := by
  have hrunning : o.add (if r.distinct.isEmpty then ∅ else
      { threads := [.repetition id count r.distinct] }) =
      if r.distinct.isEmpty then o else o.push (.repetition id count r.distinct) := by
    split
    · exact o.add_empty
    · exact o.add_thread _
  rw [empty_add, Graph.stepRepetition, stepRepetition, add_withProgress, add_append, hrunning,
    add_ite]
  simp only [add_append, add_ite, add_thread, add_leave]

/-- What a negation reports for a token is gathered. -/
theorem add_stepNegation (g : Graph) (id : Nat) (next : Option Nat) (t : Token) (r : Report) :
    o.add (g.stepNegation id next (.token t) r) =
      if r.progressed then o.push (.negation id (add {} r).threads) else o.leave g next := by
  rw [empty_add, Graph.stepNegation]
  dsimp only
  split
  · exact o.add_thread _
  · exact o.add_leave g next

theorem add_stepIf (g : Graph) (accepted : Bool) (next : Option Nat) :
    o.add (g.stepIf accepted next) = if accepted then o.leave g next else o := by
  rw [Graph.stepIf, add_ite, add_withProgress, add_leave]

end Gathered

/-! ## Runs that end -/

namespace Graph

mutual

/-- Feeding a symbol to a thread ends: what has been gathered before and after it, and whether the
thread made progress. The threads that a repetition or a negation holds are fed first, and what they
report is gathered apart. -/
inductive Feeds (g : Graph) (counting : Pattern.Counting) (sym : Symbol) :
    Thread → (o o' : Gathered) → (progressed : Bool) → Prop
  | before {id : Nat} {o o' : Gathered} {p : Bool} : Walks g counting sym [id] o false o' p →
    Feeds g counting sym (.before id) o o' p
  | repetition {id body count : Nat} {span : Pattern.Span} {next : Option Nat}
    {threads : List Thread} {o inner : Gathered} {p : Bool} :
    g.node? id = some (.repetition body span next) →
    FeedsAll g counting sym threads {} false inner p →
    Feeds g counting sym (.repetition id count threads) o
      (o.stepRepetition g counting id body span next count inner) p
  | strayRepetition {id count : Nat} {n : Node} {threads : List Thread} {o : Gathered} :
    g.node? id = some n → (∀ body span next, n ≠ .repetition body span next) →
    Feeds g counting sym (.repetition id count threads) o o false
  | negation {id body : Nat} {next : Option Nat} {threads : List Thread} {t : Token}
    {o inner : Gathered} {p : Bool} : g.node? id = some (.negation body next) →
    sym = .token t → FeedsAll g counting sym threads {} false inner p →
    Feeds g counting sym (.negation id threads) o
      (if p then o.push (.negation id inner.threads) else o.leave g next) true
  | negationSentinel {id body : Nat} {next : Option Nat} {threads : List Thread} {s : Sentinel}
    {o : Gathered} : g.node? id = some (.negation body next) → sym = .sentinel s →
    Feeds g counting sym (.negation id threads) o o false
  | strayNegation {id : Nat} {n : Node} {threads : List Thread} {o : Gathered} :
    g.node? id = some n → (∀ body next, n ≠ .negation body next) →
    Feeds g counting sym (.negation id threads) o o false

/-- Feeding a symbol to threads one after the other ends; `p` and `p'` say whether any has made
progress before and after it. -/
inductive FeedsAll (g : Graph) (counting : Pattern.Counting) (sym : Symbol) :
    List Thread → (o : Gathered) → (p : Bool) → (o' : Gathered) → (p' : Bool) → Prop
  | nil {o : Gathered} {p : Bool} : FeedsAll g counting sym [] o p o p
  | cons {t : Thread} {ts : List Thread} {o o₁ o' : Gathered} {p q p' : Bool} :
    Feeds g counting sym t o o₁ q → FeedsAll g counting sym ts o₁ (p || q) o' p' →
    FeedsAll g counting sym (t :: ts) o p o' p'

/-- A loop over nodes still to be tried ends. Every turn takes the last of them; what the node leads
to goes on top, the branches of an alternation in reverse, so that the first is tried first. -/
inductive Walks (g : Graph) (counting : Pattern.Counting) (sym : Symbol) :
    List Nat → (o : Gathered) → (p : Bool) → (o' : Gathered) → (p' : Bool) → Prop
  | done {o : Gathered} {p : Bool} : Walks g counting sym [] o p o p
  | atom {pending : List Nat} {id : Nat} {a : Pattern.Atom} {next : Option Nat} {o o' : Gathered}
    {p p' : Bool} : g.node? id = some (.atom a next) →
    Walks g counting sym pending (if takesToken a sym then o.leave g next else o)
      (p || takesToken a sym) o' p' →
    Walks g counting sym (pending ++ [id]) o p o' p'
  | anchor {pending : List Nat} {id : Nat} {s : Sentinel} {next : Option Nat} {o o' : Gathered}
    {p p' : Bool} : g.node? id = some (.anchor s next) →
    Walks g counting sym pending (if sym = .sentinel s then o.leave g next else o)
      (p || sym = .sentinel s) o' p' →
    Walks g counting sym (pending ++ [id]) o p o' p'
  | sequence {pending : List Nat} {id head : Nat} {exit : Option Nat} {o o' : Gathered}
    {p p' : Bool} : g.node? id = some (.sequence head exit) →
    Walks g counting sym (pending ++ [head]) o p o' p' →
    Walks g counting sym (pending ++ [id]) o p o' p'
  | alternation {pending branches : List Nat} {id : Nat} {exit : Option Nat} {o o' : Gathered}
    {p p' : Bool} : g.node? id = some (.alternation branches exit) →
    Walks g counting sym (pending ++ branches.reverse) o p o' p' →
    Walks g counting sym (pending ++ [id]) o p o' p'
  | repetition {pending : List Nat} {id body : Nat} {span : Pattern.Span} {next : Option Nat}
    {o o₁ o' : Gathered} {p q p' : Bool} : g.node? id = some (.repetition body span next) →
    Feeds g counting sym (.repetition id 0 [.before body]) o o₁ q →
    Walks g counting sym
      (pending ++ if span.min == 0 || g.isNullable body then next.toList else []) o₁ (p || q)
      o' p' →
    Walks g counting sym (pending ++ [id]) o p o' p'
  | negation {pending : List Nat} {id body : Nat} {next : Option Nat} {o o₁ o' : Gathered}
    {p q p' : Bool} : g.node? id = some (.negation body next) →
    Feeds g counting sym (.negation id [.before body]) o o₁ q →
    Walks g counting sym pending o₁ (p || q) o' p' →
    Walks g counting sym (pending ++ [id]) o p o' p'

end

variable {g : Graph} {counting : Pattern.Counting} {sym : Symbol}

/-- A repetition that is tried begins with a thread before its body. -/
theorem own_repetition {id body : Nat} {span : Pattern.Span} {next : Option Nat}
    (hn : g.node? id = some (.repetition body span next)) :
    Node.own g counting sym (fun l => g.walk counting sym [l]) id (.repetition body span next) =
      g.advance counting sym (.repetition id 0 [.before body]) := by
  rw [advance_repetition hn, List.map_singleton, advance, Report.join_cons, Report.join_nil,
    Report.append_empty, Node.own]

/-- A negation that is tried begins with a thread before its body. -/
theorem own_negation {id body : Nat} {next : Option Nat}
    (hn : g.node? id = some (.negation body next)) :
    Node.own g counting sym (fun l => g.walk counting sym [l]) id (.negation body next) =
      g.advance counting sym (.negation id [.before body]) := by
  rw [advance_negation hn, List.map_singleton, advance, Report.join_cons, Report.join_nil,
    Report.append_empty, Node.own]

theorem progressed_stepIf (accepted : Bool) (next : Option Nat) :
    (g.stepIf accepted next).progressed = accepted := by
  cases accepted <;> rfl

theorem progressed_stepNegation (id : Nat) (next : Option Nat) (t : Token) (r : Report) :
    (g.stepNegation id next (.token t) r).progressed = true := by
  unfold stepNegation
  dsimp only
  split <;> rfl

/-! ### What has been gathered at the end -/

mutual

/-- **A thread that has been fed** has what it reports gathered. -/
theorem Feeds.eq : ∀ {t : Thread} {o o' : Gathered} {p : Bool},
    Feeds g counting sym t o o' p →
      o' = o.add (g.advance counting sym t) ∧ p = (g.advance counting sym t).progressed
  | .before id, o, o', p, .before h => by
    obtain ⟨rfl, rfl⟩ := h.eq
    rw [advance]
    exact ⟨rfl, Bool.false_or _⟩
  | .repetition id count threads, o, _, p, .repetition hn h => by
    obtain ⟨rfl, rfl⟩ := h.eq
    rw [advance_repetition hn, Gathered.add_stepRepetition]
    exact ⟨rfl, Bool.false_or _⟩
  | .repetition id count threads, o, _, _, .strayRepetition hn hne => by
    rw [advance_repetition_of_forall_ne fun body span next h =>
      hne body span next (Option.some.inj (hn.symm.trans h))]
    exact ⟨o.add_empty.symm, rfl⟩
  | .negation id threads, o, _, _, .negation hn hsym h => by
    obtain ⟨rfl, rfl⟩ := h.eq
    subst hsym
    rw [advance_negation hn, Bool.false_or, Gathered.add_stepNegation, progressed_stepNegation]
    exact ⟨rfl, rfl⟩
  | .negation id threads, o, _, _, .negationSentinel hn hsym => by
    subst hsym
    rw [advance_negation hn]
    exact ⟨o.add_empty.symm, rfl⟩
  | .negation id threads, o, _, _, .strayNegation hn hne => by
    rw [advance_negation_of_forall_ne fun body next h =>
      hne body next (Option.some.inj (hn.symm.trans h))]
    exact ⟨o.add_empty.symm, rfl⟩

theorem FeedsAll.eq : ∀ {ts : List Thread} {o o' : Gathered} {p p' : Bool},
    FeedsAll g counting sym ts o p o' p' →
      o' = o.add (.join (ts.map (g.advance counting sym))) ∧
        p' = (p || (Report.join (ts.map (g.advance counting sym))).progressed)
  | [], o, _, p, _, .nil => ⟨o.add_empty.symm, (Report.or_progressed_empty p).symm⟩
  | t :: ts, o, o', p, p', .cons ht hts => by
    have htail := hts.eq
    obtain ⟨rfl, rfl⟩ := ht.eq
    obtain ⟨rfl, rfl⟩ := htail
    rw [List.map_cons, Report.join_cons, Gathered.add_append, Report.append_progressed,
      Bool.or_assoc]
    exact ⟨rfl, rfl⟩

theorem Walks.eq : ∀ {pending : List Nat} {o o' : Gathered} {p p' : Bool},
    Walks g counting sym pending o p o' p' →
      o' = o.add (g.walk counting sym pending.reverse) ∧
        p' = (p || (g.walk counting sym pending.reverse).progressed)
  | _, o, _, p, _, .done => by
    rw [List.reverse_nil, walk_nil]
    exact ⟨o.add_empty.symm, (Report.or_progressed_empty p).symm⟩
  | _, o, _, p, _, @Walks.atom _ _ _ _ pending id a next _ _ _ _ hn h => by
    obtain ⟨rfl, rfl⟩ := h.eq
    rw [List.reverse_concat, walk_cons hn, Gathered.add_append, Report.append_progressed,
      Node.own, Gathered.add_stepIf, progressed_stepIf, Bool.or_assoc]
    exact ⟨rfl, rfl⟩
  | _, o, _, p, _, @Walks.anchor _ _ _ _ pending id s next _ _ _ _ hn h => by
    obtain ⟨rfl, rfl⟩ := h.eq
    rw [List.reverse_concat, walk_cons hn, Gathered.add_append, Report.append_progressed,
      Node.own, Gathered.add_stepIf, progressed_stepIf, Bool.or_assoc]
    simp only [decide_eq_true_eq]
    exact ⟨rfl, rfl⟩
  | _, o, _, p, _, @Walks.sequence _ _ _ _ pending id head exit _ _ _ _ hn h => by
    obtain ⟨rfl, rfl⟩ := h.eq
    rw [List.reverse_concat, List.reverse_concat, walk_cons hn, Node.own, Report.empty_append]
    exact ⟨rfl, rfl⟩
  | _, o, _, p, _, @Walks.alternation _ _ _ _ pending branches id exit _ _ _ _ hn h => by
    obtain ⟨rfl, rfl⟩ := h.eq
    rw [List.reverse_concat, List.reverse_append, List.reverse_reverse, walk_cons hn, Node.own,
      Report.empty_append]
    exact ⟨rfl, rfl⟩
  | _, o, _, p, _, @Walks.repetition _ _ _ _ pending id body span next _ _ _ _ _ _ hn hf h => by
    have hrest := h.eq
    obtain ⟨rfl, rfl⟩ := hf.eq
    obtain ⟨rfl, rfl⟩ := hrest
    rw [List.reverse_concat, List.reverse_append, walk_cons hn, own_repetition hn,
      Gathered.add_append, Report.append_progressed, Bool.or_assoc, Node.pushed, reverse_skipped]
    exact ⟨rfl, rfl⟩
  | _, o, _, p, _, @Walks.negation _ _ _ _ pending id body next _ _ _ _ _ _ hn hf h => by
    have hrest := h.eq
    obtain ⟨rfl, rfl⟩ := hf.eq
    obtain ⟨rfl, rfl⟩ := hrest
    rw [List.reverse_concat, walk_cons hn, own_negation hn, Gathered.add_append,
      Report.append_progressed, Bool.or_assoc]
    exact ⟨rfl, rfl⟩

end

/-! ### Every run ends -/

/-- Feeding a symbol to a thread ends, with what the thread reports gathered. -/
def Ends (g : Graph) (counting : Pattern.Counting) (sym : Symbol) (t : Thread) : Prop :=
  ∀ o : Gathered, Feeds g counting sym t o (o.add (g.advance counting sym t))
    (g.advance counting sym t).progressed

theorem feedsAll_of_ends {ts : List Thread} (h : ∀ t ∈ ts, Ends g counting sym t) (o : Gathered)
    (p : Bool) : FeedsAll g counting sym ts o p
      (o.add (.join (ts.map (g.advance counting sym))))
      (p || (Report.join (ts.map (g.advance counting sym))).progressed) := by
  induction ts generalizing o p with
  | nil =>
    rw [List.map_nil, Report.join_nil, Gathered.add_empty, Report.or_progressed_empty]
    exact .nil
  | cons t ts ih =>
    obtain ⟨ht, hts⟩ := List.forall_mem_cons.mp h
    rw [List.map_cons, Report.join_cons, Gathered.add_append, Report.append_progressed,
      ← Bool.or_assoc]
    exact .cons (ht o) (ih hts _ _)

/-- Feeding a repetition ends if feeding the threads that it holds does. -/
theorem ends_repetition {id body : Nat} {span : Pattern.Span} {next : Option Nat}
    (hn : g.node? id = some (.repetition body span next)) (count : Nat) {ts : List Thread}
    (h : ∀ t ∈ ts, Ends g counting sym t) : Ends g counting sym (.repetition id count ts) := by
  intro o
  rw [advance_repetition hn, Gathered.add_stepRepetition]
  exact .repetition hn (feedsAll_of_ends h {} false)

/-- Feeding a negation ends if feeding the threads that it holds does. -/
theorem ends_negation {id body : Nat} {next : Option Nat}
    (hn : g.node? id = some (.negation body next)) {ts : List Thread}
    (h : ∀ t ∈ ts, Ends g counting sym t) : Ends g counting sym (.negation id ts) := by
  intro o
  rw [advance_negation hn]
  cases sym with
  | sentinel s =>
    show Feeds g counting _ _ o (o.add ∅) false
    rw [Gathered.add_empty]
    exact .negationSentinel hn rfl
  | token t =>
    rw [Gathered.add_stepNegation, progressed_stepNegation]
    exact .negation hn rfl (feedsAll_of_ends h {} false)

/-- **One turn of the loop**: if the parts of a node can be tried to the end, so can the node, and
what it leads to is left on the stack. -/
theorem Walks.turn {id : Nat} {n : Node} {pending : List Nat} {o o' : Gathered} {p p' : Bool}
    (hn : g.node? id = some n) (hparts : ∀ l ∈ n.parts, Ends g counting sym (.before l))
    (h : Walks g counting sym (pending ++ (n.pushed g).reverse)
      (o.add (n.own g counting sym (fun l => g.walk counting sym [l]) id))
      (p || (n.own g counting sym (fun l => g.walk counting sym [l]) id).progressed) o' p') :
    Walks g counting sym (pending ++ [id]) o p o' p' := by
  cases n with
  | atom a next =>
    rw [Node.own, Gathered.add_stepIf, progressed_stepIf, Node.pushed, List.reverse_nil,
      List.append_nil] at h
    exact .atom hn h
  | anchor s next =>
    rw [Node.own, Gathered.add_stepIf, progressed_stepIf, Node.pushed, List.reverse_nil,
      List.append_nil] at h
    simp only [decide_eq_true_eq] at h
    exact .anchor hn h
  | sequence head exit =>
    rw [Node.own, Gathered.add_empty, Report.or_progressed_empty] at h
    exact .sequence hn h
  | alternation branches exit =>
    rw [Node.own, Gathered.add_empty, Report.or_progressed_empty] at h
    exact .alternation hn h
  | repetition body span next =>
    rw [own_repetition hn, Node.pushed, reverse_skipped] at h
    have hbody := List.forall_mem_singleton.mpr (hparts body List.mem_cons_self)
    exact .repetition hn (ends_repetition hn 0 hbody o) h
  | negation body next =>
    rw [own_negation hn, Node.pushed, List.reverse_nil, List.append_nil] at h
    have hbody := List.forall_mem_singleton.mpr (hparts body List.mem_cons_self)
    exact .negation hn (ends_negation hn hbody o) h

/-- **Every loop ends** over nodes of the graph. -/
theorem walks_walk {stack : List Nat} (h : ∀ l ∈ stack, l < g.nodes.size) (o : Gathered)
    (p : Bool) : Walks g counting sym stack.reverse o p (o.add (g.walk counting sym stack))
      (p || (g.walk counting sym stack).progressed) := by
  -- By the ways down from the stack: a part of a node has fewer than a stack with the node on top.
  induction hp : g.stackPaths stack using Nat.strongRecOn generalizing stack o p with
  | ind k ih =>
    subst hp
    cases stack with
    | nil =>
      rw [walk_nil, Gathered.add_empty, Report.or_progressed_empty]
      exact .done
    | cons id stack =>
      obtain ⟨hid, hstack⟩ := List.forall_mem_cons.mp h
      obtain ⟨n, hn⟩ := exists_node?_of_lt hid
      have hpushed : ∀ l ∈ n.pushed g ++ stack, l < g.nodes.size := by
        intro l hl
        rcases List.mem_append.mp hl with hl | hl
        · exact link_lt_size hn ((n.pushed_sublist g).subset hl)
        · exact hstack l hl
      have hrest := ih _ (stackPaths_lt hn stack (n.pushed_sublist g)) hpushed
      have hparts : ∀ l ∈ n.parts, Ends g counting sym (.before l) := by
        intro l hl o
        have hlink : l ∈ n.links := List.mem_append_left _ hl
        have hpart := ih _ (stackPaths_link_lt hn hlink stack)
          (List.forall_mem_singleton.mpr (link_lt_size hn hlink)) o false rfl
        rw [Bool.false_or] at hpart
        rw [advance]
        exact .before hpart
      rw [List.reverse_cons, walk_cons hn, Gathered.add_append, Report.append_progressed,
        ← Bool.or_assoc]
      refine Walks.turn hn hparts ?_
      rw [← List.reverse_append]
      exact hrest _ _ rfl

/-- **Feeding a thread in scope ends.** -/
theorem ends_of_inScope {root : Nat} {t : Thread} (h : t.InScope g root) :
    Ends g counting sym t := by
  induction h with
  | before _ hlt =>
    intro o
    have hwalk := @walks_walk _ g counting sym _ (List.forall_mem_singleton.mpr hlt) o false
    rw [Bool.false_or] at hwalk
    rw [advance]
    exact .before hwalk
  | repetition _ hn _ _ _ _ ih => exact ends_repetition hn _ ih
  | negation _ hn _ _ ih => exact ends_negation hn ih

/-- A run over a node of the graph is one that has gathered what a visit reports. -/
theorem walks_singleton_iff {id : Nat} (h : id < g.nodes.size) {o o' : Gathered} {p : Bool} :
    Walks g counting sym [id] o false o' p ↔
      o' = o.add (g.visit counting sym id) ∧ p = (g.visit counting sym id).progressed := by
  rw [← walk_eq_visit]
  constructor
  · intro hw
    rw [← Bool.false_or (Report.progressed _)]
    exact hw.eq
  · rintro ⟨rfl, rfl⟩
    rw [← Bool.false_or (Report.progressed _)]
    exact walks_walk (List.forall_mem_singleton.mpr h) o false

theorem Ends.feeds_iff {t : Thread} (h : Ends g counting sym t) {o o' : Gathered} {p : Bool} :
    Feeds g counting sym t o o' p ↔
      o' = o.add (g.advance counting sym t) ∧ p = (g.advance counting sym t).progressed := by
  refine ⟨Feeds.eq, ?_⟩
  rintro ⟨rfl, rfl⟩
  exact h o

end Graph

/-! ## Nodes and threads of a matcher -/

/-- **The loop does what visits by recursion do.** From any node of a pattern it ends, whatever has
been gathered before, and has then gathered just what a visit to the node reports, in the same
order, with the same completion and the same progress. Feeding any thread ends that a matcher holds
at any point of a run, or feeds the next symbol to, with what the thread reports gathered. -/
theorem CompiledPattern.walks_iff_visit (p : CompiledPattern) (sym : Symbol) :
    (∀ id < p.graph.nodes.size,
      p.graph.walk Pattern.Span.next sym [id] = p.graph.visit Pattern.Span.next sym id ∧
      ∀ (o o' : Gathered) (progressed : Bool),
        Graph.Walks p.graph Pattern.Span.next sym [id] o false o' progressed ↔
          o' = o.add (p.graph.visit Pattern.Span.next sym id) ∧
          progressed = (p.graph.visit Pattern.Span.next sym id).progressed) ∧
    ∀ (calls : List Call) (t : Thread),
      t ∈ (p.matcher.after calls).frontier ++ (p.matcher.after calls).primed ++
        [.before p.graph.entry] →
      ∀ (o o' : Gathered) (progressed : Bool),
        Graph.Feeds p.graph Pattern.Span.next sym t o o' progressed ↔
          o' = o.add (p.graph.advance Pattern.Span.next sym t) ∧
          progressed = (p.graph.advance Pattern.Span.next sym t).progressed := by
  refine ⟨fun id hid => ⟨Graph.walk_eq_visit id, fun o o' q => Graph.walks_singleton_iff hid⟩, ?_⟩
  intro calls t ht o o' q
  have hm : (p.matcher.after calls).WellFormed := (matcher_wellFormed p).after calls
  have hp : (p.matcher.after calls).pattern = p := Matcher.after_pattern _ _
  have hscope : ∀ t ∈ (p.matcher.after calls).frontier ++ (p.matcher.after calls).primed,
      t.InScope p.graph p.graph.entry := by
    intro t ht
    rcases List.mem_append.mp ht with ht | ht
    · exact hp ▸ hm.inScope t ht
    · exact hp ▸ hm.primed t ht
  exact (Graph.ends_of_inScope (Graph.inScope_append_entry hscope t ht)).feeds_iff

end

/-- A matcher for `'a'+ 'b'`: where an `'a'` is tried at the entry, and where one is fed to the
repetition that is then under way. -/
theorem CompiledPattern.walks_iff_visit_plus :
    ∃ p, CompiledPattern.ofElements [.repetition (.token ⟨none, [⟨"text", .text "a"⟩]⟩) .plus,
        .token ⟨none, [⟨"text", .text "b"⟩]⟩] "'a'+ 'b'" {} = .ok p ∧
      Graph.Walks p.graph Pattern.Span.next (.token { text := "a" }) [3] {} false
        ⟨[.repetition 2 1 [.before 1], .before 0], false⟩ true ∧
      Graph.Feeds p.graph Pattern.Span.next (.token { text := "a" }) (.repetition 2 1 [.before 1])
        {} ⟨[.repetition 2 1 [.before 1], .before 0], false⟩ true := by
  refine ⟨_, rfl, ?_, ?_⟩
  · exact (((walks_iff_visit _ _).1 3 (by decide)).2 _ _ _).mpr ⟨by cbv, by cbv⟩
  · exact ((walks_iff_visit _ _).2 [.add { text := "a" }] _ (by cbv; exact .head _) _ _ _).mpr
      ⟨by cbv, by cbv⟩

end Motif
