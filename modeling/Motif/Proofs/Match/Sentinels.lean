import Mathlib
import Motif.Proofs.Match.Calls
import Motif.Proofs.Match.Walk
import Motif.Regex.Standard

/-!
# Sentinels without an anchor (specification §4.7, E3)

Nothing but an anchor takes a sentinel. Where a graph has no anchor for one, every thread that is
fed it ends, however many repetitions and negations it is in the middle of, and none of them
completes its scope. At the start of a stream there are no threads to end. A matcher may therefore
feed the sentinel of the start always, or only where the pattern asks for it.

* `walk_sentinel`, `advance_sentinel`, `step_sentinel`: nothing is reported for such a sentinel.
* `IdleAtStart.after`: where a stream begins there are no threads.
* **`sentinels_inert`**: sentinels make no difference to a pattern without anchors for them.
-/

namespace Motif

namespace Report

theorem join_eq_empty {α : Type} {f : α → Report} {l : List α} (h : ∀ a ∈ l, f a = ∅) :
    join (l.map f) = ∅ := by
  induction l with
  | nil => rfl
  | cons a l ih =>
    obtain ⟨ha, hl⟩ := List.forall_mem_cons.mp h
    rw [List.map_cons, join_cons, ha, empty_append, ih hl]

end Report

section

variable [RegexEngine]

namespace Graph

/-! ## Anchors -/

/-- Whether a node is an anchor for a sentinel. -/
def Node.isAnchor (s : Sentinel) : Node → Bool
  | anchor s' _ => s = s'
  | _ => false

/-- Whether the pattern asks anywhere for a sentinel. -/
def hasAnchor (g : Graph) (s : Sentinel) : Bool :=
  g.nodes.any (·.isAnchor s)

variable {g : Graph} {counting : Pattern.Counting} {s : Sentinel}

theorem hasAnchor_start (g : Graph) : g.hasAnchor .start = g.hasStartAnchor := by
  have hnode : ∀ n : Node, n.isAnchor .start = n.isStartAnchor := by
    intro n
    cases n with
    | anchor s next => cases s <;> rfl
    | atom a next | sequence head exit | alternation branches exit | repetition body span next
    | negation body next => rfl
  exact (congrArg g.nodes.any (funext hnode)).trans g.hasStartAnchor_eq.symm

theorem ne_of_hasAnchor_eq_false (h : g.hasAnchor s = false) {id : Nat} {s' : Sentinel}
    {next : Option Nat} (hn : g.node? id = some (.anchor s' next)) : s ≠ s' := by
  rintro rfl
  have hany : g.hasAnchor s = true :=
    Array.any_eq_true'.mpr ⟨_, Array.mem_of_getElem? hn, decide_eq_true rfl⟩
  exact Bool.false_ne_true (h.symm.trans hany)

/-! ## What is reported for a sentinel -/

/-- A repetition of what reports nothing reports nothing. -/
theorem stepRepetition_empty (id body : Nat) (span : Pattern.Span) (next : Option Nat)
    (count : Nat) : g.stepRepetition counting id body span next count ∅ = ∅ := rfl

/-- **A node** reports nothing for a sentinel without an anchor. -/
theorem walk_sentinel (h : g.hasAnchor s = false) (id : Nat) :
    g.walk counting (.sentinel s) [id] = ∅ := by
  induction id using Nat.strongRecOn with
  | ind id ih =>
    cases hn : g.node? id with
    | none => exact walk_single_of_none hn
    | some n =>
      have hpushed :
          Report.join ((n.pushed g).map fun l => g.walk counting (.sentinel s) [l]) = ∅ :=
        Report.join_eq_empty fun l hl => ih l (link_lt hn ((n.pushed_sublist g).subset hl))
      rw [walk_single hn, hpushed, Report.append_empty]
      cases n with
      | anchor s' next =>
        have hne : Symbol.sentinel s ≠ .sentinel s' := by
          simpa using ne_of_hasAnchor_eq_false h hn
        rw [Node.own, decide_eq_false hne]
        rfl
      | repetition body span next =>
        rw [Node.own, ih body (link_lt hn List.mem_cons_self), stepRepetition_empty]
      | atom a next | sequence head exit | alternation branches exit | negation body next => rfl

/-- **A thread** reports nothing for a sentinel without an anchor. -/
theorem advance_sentinel (h : g.hasAnchor s = false) (t : Thread) :
    g.advance counting (.sentinel s) t = ∅ := by
  fun_induction Graph.advance g counting (.sentinel s) t with
  | case1 id => exact walk_sentinel h id
  | case2 id count threads body span next hn ih =>
    rw [← advance, advance_repetition hn, Report.join_eq_empty ih, stepRepetition_empty]
  | case3 id count threads hn ih => rw [← advance, advance_repetition_of_forall_ne hn]
  | case4 id threads body next hn ih =>
    rw [← advance, advance_negation hn]
    rfl
  | case5 id threads hn ih => rw [← advance, advance_negation_of_forall_ne hn]

/-- **A step** reports nothing for a sentinel without an anchor, whatever threads there are. -/
theorem step_sentinel (h : g.hasAnchor s = false) (threads : List Thread) :
    g.step counting threads (.sentinel s) = ∅ :=
  Report.join_eq_empty fun t _ => advance_sentinel h t

end Graph

/-! ## Matchers that always feed the sentinel of the start -/

namespace Matcher

/-- What the attempts under way report for a symbol, and a new one. At the start they are fed the
sentinel first, whatever the pattern asks for. -/
def eagerRun (m : Matcher) (sym : Symbol) : Report :=
  let g := m.pattern.graph
  let threads :=
    if m.atStart then (g.step m.counting m.frontier (.sentinel .start)).distinct else m.frontier
  g.step m.counting threads sym

/-- The answer to a call, and the matcher after it, if `run` says what is reported for a symbol. -/
def callBy (run : Matcher → Symbol → Report) (m : Matcher) : Call → Bool × Matcher
  | .add t =>
    if m.skips t then (false, { m with matched := false })
    else
      let r := run m (.token t)
      (r.completed,
        { m with
          frontier := if r.completed then [] else r.distinct.take m.limit
          matched := r.completed
          atStart := false })
  | .finish =>
    let completed := (run m (.sentinel .finish)).completed
    (completed, { m with matched := completed })
  | .reset => (false, m.reset)

/-- The matcher after calls, if `run` says what is reported for a symbol. -/
def afterBy (run : Matcher → Symbol → Report) (m : Matcher) (calls : List Call) : Matcher :=
  calls.foldl (fun m c => (m.callBy run c).2) m

/-- The answers to calls, if `run` says what is reported for a symbol. -/
def answersBy (run : Matcher → Symbol → Report) (m : Matcher) : List Call → List Bool
  | [] => []
  | c :: cs => (m.callBy run c).1 :: (m.callBy run c).2.answersBy run cs

variable {m : Matcher} {run run' : Matcher → Symbol → Report}

theorem callBy_run (m : Matcher) (c : Call) : m.callBy Matcher.run c = m.call c := by
  cases c <;> rfl

/-- A call depends on `run` for the matcher itself alone. -/
theorem callBy_congr (h : run m = run' m) (c : Call) : m.callBy run c = m.callBy run' c := by
  cases c with
  | add t => rw [callBy, callBy, h]
  | finish => rw [callBy, callBy, h]
  | reset => rfl

/-- There are no threads where a stream begins. -/
def IdleAtStart (m : Matcher) : Prop :=
  m.atStart = true → m.frontier = []

/-- **A call** leaves no threads where a stream begins. -/
theorem IdleAtStart.call (h : m.IdleAtStart) (c : Call) : (m.call c).2.IdleAtStart := by
  cases c with
  | finish => exact h
  | reset => exact fun _ => rfl
  | add t =>
    rw [Matcher.call]
    rcases m.add_cases t with ⟨-, hm⟩ | ⟨-, -, hm⟩ | ⟨-, -, hm⟩
    · rw [hm]
      exact h
    · rw [hm]
      exact fun _ => rfl
    · rw [hm]
      exact fun hstart => Bool.noConfusion hstart

theorem IdleAtStart.after (h : m.IdleAtStart) (calls : List Call) :
    (m.after calls).IdleAtStart := by
  induction calls generalizing m with
  | nil => exact h
  | cons c cs ih => exact ih (h.call c)

/-- Without threads where a stream begins, it makes no difference to feed a sentinel there that the
pattern does not ask for. -/
theorem IdleAtStart.eagerRun_eq (h : m.IdleAtStart) : m.eagerRun = m.run := by
  funext sym
  rw [eagerRun, Matcher.run]
  cases hstart : m.atStart with
  | false => rfl
  | true =>
    cases hanchor : m.pattern.graph.hasStartAnchor with
    | true => rfl
    | false =>
      -- No threads are left once the sentinel is fed, and without it none are there yet.
      rw [← Graph.hasAnchor_start] at hanchor
      have hfrontier : m.frontier = [] := h hstart
      rw [Graph.step_sentinel hanchor, hfrontier]
      rfl

/-- **A call** is answered the same way if the sentinel of the start is always fed. -/
theorem IdleAtStart.callBy_eagerRun (h : m.IdleAtStart) (c : Call) :
    m.callBy eagerRun c = m.call c := by
  rw [callBy_congr h.eagerRun_eq, callBy_run]

/-- **A run** is the same if the sentinel of the start is always fed. -/
theorem IdleAtStart.eager (h : m.IdleAtStart) (calls : List Call) :
    m.answersBy eagerRun calls = m.answers calls ∧ m.afterBy eagerRun calls = m.after calls := by
  induction calls generalizing m with
  | nil => exact ⟨rfl, rfl⟩
  | cons c cs ih =>
    obtain ⟨hanswers, hafter⟩ := ih (h.call c)
    constructor
    · rw [answersBy, h.callBy_eagerRun, hanswers, answers]
    · show (m.callBy eagerRun c).2.afterBy eagerRun cs = _
      rw [h.callBy_eagerRun, hafter, after_cons]

end Matcher

namespace CompiledPattern

theorem matcher_idleAtStart (p : CompiledPattern) : p.matcher.IdleAtStart :=
  fun _ => rfl

/-- **Sentinels make no difference to a pattern without anchors for them.** Without an anchor of the
start nothing is reported for its sentinel at any point of a run, and with or without one a matcher
gives the same answers and holds the same threads if it always feeds the sentinel at the start.
Without an anchor of the end, no attempt is ever complete because a stream ends. -/
theorem sentinels_inert (p : CompiledPattern) :
    (p.graph.hasStartAnchor = false → ∀ calls : List Call,
      p.graph.step Pattern.Span.next (p.matcher.after calls).frontier (.sentinel .start) = ∅) ∧
    (∀ calls : List Call,
      p.matcher.answersBy Matcher.eagerRun calls = p.matcher.answers calls ∧
      p.matcher.afterBy Matcher.eagerRun calls = p.matcher.after calls) ∧
    (p.graph.hasAnchor .finish = false → ∀ calls : List Call,
      (p.matcher.after calls).finish.1 = false) := by
  refine ⟨fun h calls => ?_, p.matcher_idleAtStart.eager, fun h calls => ?_⟩
  · exact Graph.step_sentinel (p.graph.hasAnchor_start.trans h) _
  · have hanchor : (p.matcher.after calls).pattern.graph.hasAnchor .finish = false := by
      rw [Matcher.after_pattern]
      exact h
    show ((p.matcher.after calls).run (.sentinel .finish)).completed = false
    rw [Matcher.run_eq, Graph.step_sentinel hanchor]
    rfl

end CompiledPattern

end

/-- A matcher for `('a' 'd')+ !('b' 'c')` in the middle of the negation. -/
theorem CompiledPattern.sentinels_inert_negation :
    ∃ p, ofElements [.repetition (.group [.token ⟨none, [⟨"text", .text "a"⟩]⟩,
          .token ⟨none, [⟨"text", .text "d"⟩]⟩]) .plus,
        .negation (.group [.token ⟨none, [⟨"text", .text "b"⟩]⟩,
          .token ⟨none, [⟨"text", .text "c"⟩]⟩])] "('a' 'd')+ !('b' 'c')" {} = .ok p ∧
      let calls : List Call := [.add { text := "a" }, .add { text := "d" }, .add { text := "b" }]
      (p.matcher.after calls).frontier = [.negation 3 [.before 0]] ∧
      p.graph.step Pattern.Span.next (p.matcher.after calls).frontier (.sentinel .start) = ∅ ∧
      p.matcher.answersBy Matcher.eagerRun calls = p.matcher.answers calls ∧
      (p.matcher.after calls).finish.1 = false := by
  refine ⟨_, rfl, ?_, (sentinels_inert _).1 (by cbv) _, ((sentinels_inert _).2.1 _).1,
    (sentinels_inert _).2.2 (by cbv) _⟩
  cbv

end Motif
