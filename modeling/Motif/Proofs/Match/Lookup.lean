import Motif.Proofs.Language.Graph
import Motif.Proofs.Match.Scope
import Motif.Regex.Standard

/-!
# Lookups that succeed (specification §4.7, §9)

A walk passes over a number that is no node, and a thread in the middle of a repetition reports
nothing if its node is of another kind. Here the same is done with lookups that may fail, and fail
in these cases. For threads in scope none does, so a matcher never meets with either case.

* `walk?_eq_some`, `advance?_eq_some`, `step?_eq_some`: what is reported without failure.
* `run?_eq_some`: a well-formed matcher meets with no failure.
* **`frontier_after`**: what a matcher holds at any point of a run.
-/

namespace Motif

namespace Report

/-- Reports one after the other, if there are all of them. -/
def join? (rs : List (Option Report)) : Option Report :=
  rs.foldr (fun r s => r.bind fun a => s.map (a ++ ·)) (some ∅)

theorem join?_eq_some {α : Type} {f : α → Option Report} {f' : α → Report} {l : List α}
    (h : ∀ a ∈ l, f a = some (f' a)) :
    join? (l.map f) = some (join (l.map f')) := by
  induction l with
  | nil => rfl
  | cons a l ih =>
    obtain ⟨ha, hl⟩ := List.forall_mem_cons.mp h
    show (f a).bind (fun r => (join? (l.map f)).map (r ++ ·)) = _
    rw [ha, ih hl]
    rfl

end Report

section

variable [RegexEngine]

namespace Graph

/-- A node that another leads to has fewer ways down than any stack with the other on top. -/
theorem stackPaths_link_lt {g : Graph} {id l : Nat} {n : Node} (h : g.node? id = some n)
    (hl : l ∈ n.links) (stack : List Nat) : g.stackPaths [l] < g.stackPaths (id :: stack) := by
  have hlt := stackPaths_lt h stack (List.singleton_sublist.mpr hl)
  refine Nat.lt_of_le_of_lt ?_ hlt
  simp only [stackPaths, List.map_append, total_append]
  omega

/-! ## Steps that may fail -/

/-- Whether the scope of a node can end from there without a symbol, if there is such a node. -/
def isNullable? (g : Graph) (id : Nat) : Option Bool :=
  g.nullable[id]?

/-- What is reported after a node, if the next one is there. -/
def leave? (g : Graph) : (next : Option Nat) → Option Report
  | none => some { completed := true }
  | some id => (g.isNullable? id).map fun completed => { threads := [.before id], completed }

/-- What a repetition reports, if its body and the next node are there. -/
def stepRepetition? (g : Graph) (counting : Pattern.Counting) (id body : Nat) (span : Pattern.Span)
    (next : Option Nat) (count : Nat) (inner : Report) : Option Report := do
  let nullable ← g.isNullable? body
  let left ← g.leave? next
  let threads := inner.distinct
  let running : Report :=
    if threads.isEmpty then ∅ else { threads := [.repetition id count threads] }
  let counted := counting span count
  let again : Report :=
    if span.allowsMore counted then { threads := [.repetition id counted [.before body]] } else ∅
  let after : Report := if span.isSatisfied counted || nullable then left else ∅
  return { running ++ (if inner.completed then again ++ after else ∅) with
    progressed := inner.progressed }

/-- What a negation reports, if the next node is there. -/
def stepNegation? (g : Graph) (id : Nat) (next : Option Nat) (sym : Symbol) (inner : Report) :
    Option Report := do
  let left ← g.leave? next
  match sym with
  | .sentinel _ => return ∅
  | .token _ =>
    if inner.progressed then return { threads := [.negation id inner.distinct], progressed := true }
    else return { left with progressed := true }

/-- What a node that takes one symbol reports, if the next one is there. -/
def stepIf? (g : Graph) (accepted : Bool) (next : Option Nat) : Option Report := do
  let left ← g.leave? next
  return if accepted then { left with progressed := true } else ∅

/-- What is reported by the nodes on a stack, if they and all that are reached from them are
there. -/
def walk? (g : Graph) (counting : Pattern.Counting) (sym : Symbol) (stack : List Nat) :
    Option Report :=
  match stack with
  | [] => some ∅
  | id :: stack =>
    match _h : g.node? id with
    | none => none
    | some (.atom a next) => do
      return (← g.stepIf? (takesToken a sym) next) ++ (← walk? g counting sym stack)
    | some (.anchor s next) => do
      return (← g.stepIf? (sym = .sentinel s) next) ++ (← walk? g counting sym stack)
    | some (.sequence head _) => walk? g counting sym (head :: stack)
    | some (.alternation branches _) => walk? g counting sym (branches ++ stack)
    | some (.repetition body span next) => do
      let nullable ← g.isNullable? body
      let skipped := if span.min == 0 || nullable then next.toList else []
      let inner ← walk? g counting sym [body]
      let own ← g.stepRepetition? counting id body span next 0 inner
      return own ++ (← walk? g counting sym (skipped ++ stack))
    | some (.negation body next) => do
      let inner ← walk? g counting sym [body]
      return (← g.stepNegation? id next sym inner) ++ (← walk? g counting sym stack)
termination_by g.stackPaths stack
decreasing_by
  · exact stackPaths_lt _h stack (List.nil_sublist _)
  · exact stackPaths_lt _h stack (List.nil_sublist _)
  · exact stackPaths_lt _h stack (List.sublist_append_left [head] _)
  · exact stackPaths_lt _h stack (List.sublist_append_left branches _)
  · exact stackPaths_link_lt _h List.mem_cons_self stack
  · refine stackPaths_lt _h stack ?_
    split
    · exact List.sublist_append_right ..
    · exact List.nil_sublist _
  · exact stackPaths_link_lt _h List.mem_cons_self stack
  · exact stackPaths_lt _h stack (List.nil_sublist _)

/-- What a thread reports, if every node it is in is there and of the right kind. -/
def advance? (g : Graph) (counting : Pattern.Counting) (sym : Symbol) : Thread → Option Report
  | .before id => g.walk? counting sym [id]
  | .repetition id count threads => do
    let inner ← Report.join? (threads.map (advance? g counting sym))
    match g.node? id with
    | some (.repetition body span next) => g.stepRepetition? counting id body span next count inner
    | _ => none
  | .negation id threads => do
    let inner ← Report.join? (threads.map (advance? g counting sym))
    match g.node? id with
    | some (.negation _ next) => g.stepNegation? id next sym inner
    | _ => none

/-- What threads report, together with a new attempt, if all nodes are there and of the right
kinds. -/
def step? (g : Graph) (counting : Pattern.Counting) (threads : List Thread) (sym : Symbol) :
    Option Report :=
  Report.join? ((threads ++ [Thread.before g.entry]).map (g.advance? counting sym))

/-! ## They do not fail -/

section Succeeds

variable {g : Graph} {counting : Pattern.Counting} {sym : Symbol} {id body root : Nat}
  {next : Option Nat}

theorem isNullable?_eq_some (h : id < g.nodes.size) :
    g.isNullable? id = some (g.isNullable id) := by
  have hid : id < g.nullable.size := g.size_nullable ▸ h
  rw [isNullable?, isNullable, Array.getD_eq_getD_getElem?, Array.getElem?_eq_getElem hid]
  rfl

theorem leave?_eq_some (h : ∀ l ∈ next, l < g.nodes.size) :
    g.leave? next = some (g.leave next) := by
  cases next with
  | none => rfl
  | some l =>
    rw [leave?, isNullable?_eq_some (h l rfl)]
    rfl

theorem stepRepetition?_eq_some (span : Pattern.Span) (count : Nat) (inner : Report)
    (hbody : body < g.nodes.size) (hnext : ∀ l ∈ next, l < g.nodes.size) :
    g.stepRepetition? counting id body span next count inner =
      some (g.stepRepetition counting id body span next count inner) := by
  rw [stepRepetition?, isNullable?_eq_some hbody, leave?_eq_some hnext]
  rfl

theorem stepNegation?_eq_some (inner : Report) (hnext : ∀ l ∈ next, l < g.nodes.size) :
    g.stepNegation? id next sym inner = some (g.stepNegation id next sym inner) := by
  rw [stepNegation?, leave?_eq_some hnext]
  cases sym with
  | sentinel s => rfl
  | token t =>
    show (if inner.progressed then some _ else some _) = some (if inner.progressed then _ else _)
    exact (apply_ite some _ _ _).symm

theorem stepIf?_eq_some (accepted : Bool) (hnext : ∀ l ∈ next, l < g.nodes.size) :
    g.stepIf? accepted next = some (g.stepIf accepted next) := by
  rw [stepIf?, leave?_eq_some hnext]
  rfl

/-- **One turn of a walk** finds its node, where its parts and the nodes it leaves do. -/
theorem walk?_cons {n : Node} {stack : List Nat} {r : Report} (hn : g.node? id = some n)
    (hpart : ∀ l ∈ n.parts, g.walk? counting sym [l] = some (g.walk counting sym [l]))
    (hrest : g.walk? counting sym (n.pushed g ++ stack) = some r) :
    g.walk? counting sym (id :: stack) =
      some (n.own g counting sym (fun l => g.walk counting sym [l]) id ++ r) := by
  rw [walk?]
  split
  case h_1 hm => cases hm.symm.trans hn
  case h_2 a next hm | h_3 a next hm =>
    obtain rfl := Option.some.inj (hm.symm.trans hn)
    rw [show g.stepIf? _ next = _ from stepIf?_eq_some _ (next_lt_size hn),
      show g.walk? counting sym stack = _ from hrest]
    rfl
  case h_4 hm | h_5 hm =>
    obtain rfl := Option.some.inj (hm.symm.trans hn)
    exact hrest
  case h_6 body span next hm =>
    obtain rfl := Option.some.inj (hm.symm.trans hn)
    have hbody : body < g.nodes.size := link_lt_size hn List.mem_cons_self
    have hnext : ∀ l ∈ next, l < g.nodes.size := next_lt_size hn
    rw [isNullable?_eq_some hbody, hpart body List.mem_cons_self]
    -- With the flag found, what goes on the stack is what the walk that cannot fail leaves there.
    show Option.bind (g.stepRepetition? counting id body span next 0 _) (fun own =>
      Option.bind (g.walk? counting sym (Node.pushed g (.repetition body span next) ++ stack))
        fun rest => some (own ++ rest)) = _
    rw [stepRepetition?_eq_some span 0 _ hbody hnext, hrest]
    rfl
  case h_7 body next hm =>
    obtain rfl := Option.some.inj (hm.symm.trans hn)
    have hnext : ∀ l ∈ next, l < g.nodes.size := next_lt_size hn
    rw [hpart body List.mem_cons_self]
    show Option.bind (g.stepNegation? id next sym _) (fun own =>
      Option.bind (g.walk? counting sym stack) fun rest => some (own ++ rest)) = _
    rw [stepNegation?_eq_some _ hnext, show g.walk? counting sym stack = _ from hrest]
    rfl

/-- **A walk** finds every node on its stack and all that are reached from them. -/
theorem walk?_eq_some {stack : List Nat} (h : ∀ l ∈ stack, l < g.nodes.size) :
    g.walk? counting sym stack = some (g.walk counting sym stack) := by
  -- By the ways down from the stack, as the walk itself ends.
  induction hp : g.stackPaths stack using Nat.strongRecOn generalizing stack with
  | ind k ih =>
    subst hp
    cases stack with
    | nil => rw [walk?, walk_nil]
    | cons id stack =>
      obtain ⟨hid, hstack⟩ := List.forall_mem_cons.mp h
      obtain ⟨n, hn⟩ := exists_node?_of_lt hid
      have hpushed : ∀ l ∈ n.pushed g ++ stack, l < g.nodes.size := by
        intro l hl
        rcases List.mem_append.mp hl with hl | hl
        · exact link_lt_size hn ((n.pushed_sublist g).subset hl)
        · exact hstack l hl
      rw [walk_cons hn]
      refine walk?_cons hn (fun l hl => ?_)
        (ih _ (stackPaths_lt hn stack (n.pushed_sublist g)) hpushed rfl)
      have hlink : l ∈ n.links := List.mem_append_left _ hl
      exact ih _ (stackPaths_link_lt hn hlink stack)
        (List.forall_mem_singleton.mpr (link_lt_size hn hlink)) rfl

/-- **A thread in scope** finds its nodes, which are of the right kinds. -/
theorem advance?_eq_some {t : Thread} (h : t.InScope g root) :
    g.advance? counting sym t = some (g.advance counting sym t) := by
  induction h with
  | before _ hlt =>
    rw [advance?, advance]
    exact walk?_eq_some (List.forall_mem_singleton.mpr hlt)
  | repetition _ hn _ _ _ _ ih =>
    rw [advance?, Report.join?_eq_some ih, advance_repetition hn]
    show (match g.node? _ with | some (.repetition ..) => _ | _ => none) = _
    rw [hn]
    exact stepRepetition?_eq_some _ _ _ (link_lt_size hn List.mem_cons_self) (next_lt_size hn)
  | negation _ hn _ _ ih =>
    rw [advance?, Report.join?_eq_some ih, advance_negation hn]
    show (match g.node? _ with | some (.negation ..) => _ | _ => none) = _
    rw [hn]
    exact stepNegation?_eq_some _ (next_lt_size hn)

/-- **A step** of threads in scope meets with no failure. -/
theorem step?_eq_some {threads : List Thread} (h : ∀ t ∈ threads, t.InScope g g.entry) :
    g.step? counting threads sym = some (g.step counting threads sym) :=
  Report.join?_eq_some fun t ht => advance?_eq_some (inScope_append_entry h t ht)

end Succeeds

end Graph

namespace Matcher

/-- The threads that are fed the next symbol, if no lookup fails. -/
def primed? (m : Matcher) : Option (List Thread) :=
  if m.atStart && m.pattern.graph.hasStartAnchor then
    (m.pattern.graph.step? m.counting m.frontier (.sentinel .start)).map Report.distinct
  else some m.frontier

/-- What the attempts under way report for a symbol, and a new one, if no lookup fails. -/
def run? (m : Matcher) (sym : Symbol) : Option Report := do
  m.pattern.graph.step? m.counting (← m.primed?) sym

variable {m : Matcher}

theorem WellFormed.primed?_eq_some (h : m.WellFormed) : m.primed? = some m.primed := by
  rw [Matcher.primed?, Matcher.primed, Graph.step?_eq_some h.inScope]
  exact (apply_ite some _ _ _).symm

/-- **A well-formed matcher** meets with no failure. -/
theorem WellFormed.run?_eq_some (h : m.WellFormed) (sym : Symbol) :
    m.run? sym = some (m.run sym) := by
  rw [Matcher.run?, h.primed?_eq_some]
  exact Graph.step?_eq_some h.primed

end Matcher

/-! ## Matchers at any point of a run -/

/-- **What a matcher holds at any point of a run**: no thread twice, no more threads than it has
room for, and each in scope. It holds none before the first token of a stream that is not passed
over, and none right after a match. Whatever symbol comes next, all nodes are found and are of the
right kinds. -/
theorem CompiledPattern.frontier_after (p : CompiledPattern) (calls : List Call) :
    let m := p.matcher.after calls
    m.frontier.Nodup ∧
    m.frontier.length ≤ max 1 p.options.maxThreads.toNat ∧
    (∀ t ∈ m.frontier, t.InScope p.graph p.graph.entry) ∧
    (∀ earlier later : List Call, calls = earlier ++ later →
      (∀ c ∈ earlier.getLast?, c = .reset) → (∀ t, .add t ∈ later → p.matcher.skips t = true) →
        m.frontier = []) ∧
    (∀ t, (m.add t).1 = true → (m.add t).2.frontier = []) ∧
    ∀ sym, m.run? sym = some (m.run sym) := by
  intro m
  have hp : m.pattern = p := Matcher.after_pattern _ _
  have hm : m.WellFormed := (matcher_wellFormed p).after calls
  have hlength : m.frontier.length ≤ max 1 p.options.maxThreads.toNat := hp ▸ hm.length_le
  have hscope : ∀ t ∈ m.frontier, t.InScope p.graph p.graph.entry := hp ▸ hm.inScope
  refine ⟨hm.nodup, hlength, hscope, ?_, ?_, hm.run?_eq_some⟩
  · intro earlier later hcalls hlast hskips
    have hafter : m = (p.matcher.after earlier).after later := by
      rw [← Matcher.after_append, ← hcalls]
    have hempty : (p.matcher.after earlier).frontier = [] :=
      Matcher.frontier_after_of_getLast? rfl hlast
    rw [hafter]
    refine Matcher.frontier_after_eq_nil hempty fun t ht => ?_
    rw [Matcher.skips, Matcher.after_pattern]
    exact hskips t ht
  · intro t ht
    rw [(Matcher.add_of_matched ht).2.2]

end

/-- A literal leaves no threads behind: not before the first token of a stream, and not after a
match. -/
theorem CompiledPattern.frontier_after_literal :
    ∃ p, CompiledPattern.ofElements [.token ⟨none, [⟨"text", .text "a"⟩]⟩] "'a'" {} = .ok p ∧
      (p.matcher.after [.add { text := "b" }, .reset, .finish]).frontier = [] ∧
      ((p.matcher.after []).add { text := "a" }).2.frontier = [] := by
  refine ⟨_, rfl, ?_, ?_⟩
  · exact (frontier_after _ _).2.2.2.1 [.add { text := "b" }, .reset] [.finish] rfl (by simp)
      (by simp)
  · exact (frontier_after _ _).2.2.2.2.1 _ (by cbv)

end Motif
