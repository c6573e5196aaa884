import Mathlib
import Motif.Proofs.Match.Attempts
import Motif.Proofs.Match.Walk

/-!
# Threads in their scopes

What a thread may look like. The nodes it names are of the right kinds and can be reached from where
its scope begins; a repetition or a negation under way holds threads in the scope of its body, none
of them twice; and a count is one of those that make a difference. Threads keep to this with every
symbol, so it holds of all that a matcher ever holds.

* `inScope_walk`, `inScope_advance`, `inScope_step`: what is reported is in scope.
* `WellFormed.call`, `WellFormed.after`: a matcher stays well formed, call by call and in a run.
-/

namespace Motif

/-! ## Counts -/

namespace Pattern

/-- A count that a thread in a repetition may hold: none, or one below the upper bound, or where
there is no upper bound one that is not beyond the lower. -/
def Span.Holds (s : Span) (count : Nat) : Prop :=
  count = 0 ∨ (∀ m ∈ s.max, count < m.toNat) ∧ (s.max = none → count ≤ s.min.toNat)

/-- A way of counting with which threads hold only such counts. -/
def Counting.Limited (counting : Counting) : Prop :=
  ∀ (s : Span) (c : Nat), s.allowsMore (counting s c) = true → s.Holds (counting s c)

theorem Span.holds_zero (s : Span) : s.Holds 0 :=
  .inl rfl

theorem limited_next : Counting.Limited Span.next := by
  intro s c h
  refine .inr ⟨fun m hm => ?_, fun hm => ?_⟩
  · obtain hm : s.max = some m := hm
    simpa [Span.allowsMore, hm] using h
  · simp [Span.next, Span.clamp, hm]

end Pattern

namespace Report

theorem nodup_distinct (r : Report) : r.distinct.Nodup := by
  rw [distinct_eq]
  exact nodup_eraseDups r.threads

theorem mem_distinct {r : Report} {t : Thread} : t ∈ r.distinct ↔ t ∈ r.threads := by
  rw [distinct_eq, List.mem_eraseDups]

end Report

variable [RegexEngine]

/-! ## Scopes -/

namespace Graph

/-- A node leads to another along a link. -/
def Leads (g : Graph) (a b : Nat) : Prop :=
  ∃ n, g.node? a = some n ∧ b ∈ n.links

/-- A node can be reached from another along links. -/
def Reachable (g : Graph) : (a b : Nat) → Prop :=
  Relation.ReflTransGen g.Leads

variable {g : Graph} {a b : Nat}

theorem Reachable.le (h : g.Reachable a b) : b ≤ a := by
  induction h with
  | refl => exact Nat.le_refl a
  | tail _ hl ih =>
    obtain ⟨n, hn, hl⟩ := hl
    exact Nat.le_trans (Nat.le_of_lt (link_lt hn hl)) ih

theorem Reachable.link {n : Node} {l : Nat} (h : g.Reachable a b) (hn : g.node? b = some n)
    (hl : l ∈ n.links) : g.Reachable a l :=
  Relation.ReflTransGen.tail h ⟨n, hn, hl⟩

theorem lt_size_of_node? {n : Node} (h : g.node? a = some n) : a < g.nodes.size :=
  (Array.getElem?_eq_some_iff.mp h).1

theorem exists_node?_of_lt (h : a < g.nodes.size) : ∃ n, g.node? a = some n :=
  ⟨_, Array.getElem?_eq_getElem h⟩

/-- Links do not lead out of a graph. -/
theorem link_lt_size {n : Node} {l : Nat} (h : g.node? a = some n) (hl : l ∈ n.links) :
    l < g.nodes.size :=
  Nat.lt_trans (link_lt h hl) (lt_size_of_node? h)

theorem next_lt_size {n : Node} (h : g.node? a = some n) : ∀ l ∈ n.next, l < g.nodes.size :=
  fun _ hl => link_lt_size h (List.mem_append_right _ (Option.mem_toList.mpr hl))

end Graph

/-- A thread in the scope that begins at a node. -/
inductive Thread.InScope (g : Graph) : (root : Nat) → Thread → Prop
  | before {root id : Nat} : g.Reachable root id → id < g.nodes.size →
    InScope g root (.before id)
  | repetition {root id body count : Nat} {span : Pattern.Span} {next : Option Nat}
    {threads : List Thread} : g.Reachable root id →
    g.node? id = some (.repetition body span next) → threads ≠ [] → threads.Nodup →
    (∀ t ∈ threads, InScope g body t) → span.Holds count →
      InScope g root (.repetition id count threads)
  | negation {root id body : Nat} {next : Option Nat} {threads : List Thread} :
    g.Reachable root id → g.node? id = some (.negation body next) → threads.Nodup →
    (∀ t ∈ threads, InScope g body t) → InScope g root (.negation id threads)

/-- A report of threads in the scope that begins at a node. -/
def Report.InScope (g : Graph) (root : Nat) (r : Report) : Prop :=
  ∀ t ∈ r.threads, t.InScope g root

namespace Report

variable {g : Graph} {root : Nat} {r s : Report}

theorem inScope_empty : (∅ : Report).InScope g root :=
  fun _ h => nomatch h

theorem InScope.append (hr : r.InScope g root) (hs : s.InScope g root) :
    (r ++ s).InScope g root := by
  intro t ht
  rcases List.mem_append.mp ht with ht | ht
  · exact hr t ht
  · exact hs t ht

theorem inScope_singleton {t : Thread} (h : t.InScope g root) :
    Report.InScope g root { threads := [t] } :=
  List.forall_mem_singleton.mpr h

theorem inScope_ite {p : Prop} [Decidable p] (h : p → r.InScope g root) :
    (if p then r else ∅).InScope g root := by
  split
  · exact h ‹_›
  · exact inScope_empty

theorem inScope_join {α : Type} {f : α → Report} {l : List α}
    (h : ∀ i ∈ l, (f i).InScope g root) : (join (l.map f)).InScope g root := by
  induction l with
  | nil => exact inScope_empty
  | cons i l ih =>
    obtain ⟨hi, hl⟩ := List.forall_mem_cons.mp h
    exact hi.append (ih hl)

end Report

/-! ## What nodes and threads report -/

namespace Graph

variable {g : Graph} {counting : Pattern.Counting} {sym : Symbol} {root id body : Nat}
  {next : Option Nat} {inner : Report}

theorem inScope_leave (h : ∀ l ∈ next, g.Reachable root l ∧ l < g.nodes.size) :
    (g.leave next).InScope g root := by
  cases next with
  | none => exact Report.inScope_empty
  | some l => exact List.forall_mem_singleton.mpr (.before (h l rfl).1 (h l rfl).2)

/-- What comes after a node is in the scope of the node. -/
theorem inScope_leave_next {n : Node} (hid : g.Reachable root id) (hn : g.node? id = some n) :
    (g.leave n.next).InScope g root := by
  refine inScope_leave fun l hl => ?_
  have hlink : l ∈ n.links := List.mem_append_right _ (Option.mem_toList.mpr hl)
  exact ⟨hid.link hn hlink, link_lt_size hn hlink⟩

/-- **A repetition under way** reports threads in its own scope if those of its body are in the
scope of the body. -/
theorem inScope_stepRepetition {span : Pattern.Span} {count : Nat} (hc : counting.Limited)
    (hid : g.Reachable root id) (hn : g.node? id = some (.repetition body span next))
    (hcount : span.Holds count) (hinner : inner.InScope g body) :
    (g.stepRepetition counting id body span next count inner).InScope g root := by
  have hbody : body < g.nodes.size := link_lt_size hn List.mem_cons_self
  have hdistinct : ∀ t ∈ inner.distinct, t.InScope g body :=
    fun t ht => hinner t (Report.mem_distinct.mp ht)
  have hrunning : Report.InScope g root (if inner.distinct.isEmpty then (∅ : Report)
      else { threads := [.repetition id count inner.distinct] }) := by
    split
    · exact Report.inScope_empty
    · rename_i hne
      refine Report.inScope_singleton ?_
      exact .repetition hid hn (by simpa using hne) inner.nodup_distinct hdistinct hcount
  have hagain : Report.InScope g root (if span.allowsMore (counting span count) then
      { threads := [.repetition id (counting span count) [.before body]] } else (∅ : Report)) := by
    refine Report.inScope_ite fun hmore => Report.inScope_singleton ?_
    refine .repetition hid hn (List.cons_ne_nil _ _) (List.nodup_singleton _) ?_ (hc _ _ hmore)
    exact List.forall_mem_singleton.mpr (.before .refl hbody)
  have hafter : Report.InScope g root
      (if span.isSatisfied (counting span count) || g.isNullable body then g.leave next else ∅) :=
    Report.inScope_ite fun _ => inScope_leave_next hid hn
  exact hrunning.append (Report.inScope_ite fun _ => hagain.append hafter)

/-- **A negation under way** reports threads in its own scope if those of its body are in the scope
of the body. -/
theorem inScope_stepNegation (hid : g.Reachable root id)
    (hn : g.node? id = some (.negation body next)) (hinner : inner.InScope g body) :
    (g.stepNegation id next sym inner).InScope g root := by
  unfold stepNegation
  split
  · exact Report.inScope_empty
  · split
    · refine Report.inScope_singleton (.negation hid hn inner.nodup_distinct ?_)
      exact fun t ht => hinner t (Report.mem_distinct.mp ht)
    · exact inScope_leave_next hid hn

/-- **A node** reports threads in every scope in which it is. -/
theorem inScope_walk (hc : counting.Limited) (hid : g.Reachable root id)
    (hlt : id < g.nodes.size) : (g.walk counting sym [id]).InScope g root := by
  induction id using Nat.strongRecOn generalizing root with
  | ind id ih =>
    obtain ⟨n, hn⟩ := exists_node?_of_lt hlt
    have hlinks : ∀ l ∈ n.links, ∀ {r : Nat}, g.Reachable r l →
        (g.walk counting sym [l]).InScope g r :=
      fun l hl _ hr => ih l (link_lt hn hl) hr (link_lt_size hn hl)
    rw [walk_single hn]
    refine Report.InScope.append ?_ (Report.inScope_join fun l hl => ?_)
    · cases n with
      | atom a next => exact Report.inScope_ite fun _ => inScope_leave_next hid hn
      | anchor s next => exact Report.inScope_ite fun _ => inScope_leave_next hid hn
      | sequence head exit | alternation branches exit => exact Report.inScope_empty
      | repetition body span next =>
        have hbody := hlinks body (List.mem_append_left _ (List.mem_singleton.mpr rfl)) .refl
        exact inScope_stepRepetition hc hid hn span.holds_zero hbody
      | negation body next =>
        have hbody := hlinks body (List.mem_append_left _ (List.mem_singleton.mpr rfl)) .refl
        exact inScope_stepNegation hid hn hbody
    · have hl := (n.pushed_sublist g).subset hl
      exact hlinks l hl (hid.link hn hl)

/-- **A thread** reports threads in its own scope. -/
theorem inScope_advance (hc : counting.Limited) {t : Thread} (h : t.InScope g root) :
    (g.advance counting sym t).InScope g root := by
  induction h with
  | before hid hlt =>
    rw [advance]
    exact inScope_walk hc hid hlt
  | repetition hid hn _ _ _ hcount ih =>
    rw [advance_repetition hn]
    exact inScope_stepRepetition hc hid hn hcount (Report.inScope_join ih)
  | negation hid hn _ _ ih =>
    rw [advance_negation hn]
    exact inScope_stepNegation hid hn (Report.inScope_join ih)

/-- A new attempt begins in the scope of the whole pattern. -/
theorem inScope_append_entry {threads : List Thread} (h : ∀ t ∈ threads, t.InScope g g.entry) :
    ∀ t ∈ threads ++ [.before g.entry], t.InScope g g.entry := by
  intro t ht
  rcases List.mem_append.mp ht with ht | ht
  · exact h t ht
  · obtain rfl := List.mem_singleton.mp ht
    exact .before .refl g.entry_lt

/-- **A step** of threads in the scope of the whole pattern reports such threads. -/
theorem inScope_step (hc : counting.Limited) {threads : List Thread}
    (h : ∀ t ∈ threads, t.InScope g g.entry) :
    (g.step counting threads sym).InScope g g.entry :=
  Report.inScope_join fun t ht => inScope_advance hc (inScope_append_entry h t ht)

end Graph

/-! ## Runs of a matcher -/

namespace Matcher

/-- What holds of a matcher at any point of a run: it keeps each thread once, no more threads than
it has room for, and only threads in the scope of the whole pattern. -/
structure WellFormed (m : Matcher) : Prop where
  limited : m.counting.Limited
  nodup : m.frontier.Nodup
  length_le : m.frontier.length ≤ m.limit
  inScope : ∀ t ∈ m.frontier, t.InScope m.pattern.graph m.pattern.graph.entry

variable {m : Matcher} {sym : Symbol}

theorem wellFormed_of_frontier_eq_nil (hc : m.counting.Limited) (h : m.frontier = []) :
    m.WellFormed where
  limited := hc
  nodup := h ▸ List.nodup_nil
  length_le := h ▸ Nat.zero_le _
  inScope := h ▸ List.forall_mem_nil _

/-- The threads that are fed the next symbol are in scope. -/
theorem WellFormed.primed (h : m.WellFormed) :
    ∀ t ∈ m.primed, t.InScope m.pattern.graph m.pattern.graph.entry := by
  intro t ht
  unfold Matcher.primed at ht
  split at ht
  · exact Graph.inScope_step h.limited h.inScope t (Report.mem_distinct.mp ht)
  · exact h.inScope t ht

/-- What is reported for a symbol is in scope. -/
theorem WellFormed.run (h : m.WellFormed) :
    (m.run sym).InScope m.pattern.graph m.pattern.graph.entry := by
  rw [run_eq]
  exact Graph.inScope_step h.limited h.primed

/-- **A call** keeps a matcher well formed. -/
theorem WellFormed.call (h : m.WellFormed) (c : Call) : (m.call c).2.WellFormed := by
  cases c with
  | finish => exact ⟨h.limited, h.nodup, h.length_le, h.inScope⟩
  | reset => exact wellFormed_of_frontier_eq_nil h.limited rfl
  | add t =>
    rw [Matcher.call]
    rcases m.add_cases t with ⟨-, hm⟩ | ⟨-, -, hm⟩ | ⟨-, -, hm⟩
    · rw [hm]
      exact ⟨h.limited, h.nodup, h.length_le, h.inScope⟩
    · rw [hm]
      exact wellFormed_of_frontier_eq_nil h.limited rfl
    · rw [hm]
      constructor
      · exact h.limited
      · exact (m.run (.token t)).nodup_distinct.sublist (List.take_sublist _ _)
      · exact List.length_take_le _ _
      · exact fun u hu => h.run u (Report.mem_distinct.mp (List.mem_of_mem_take hu))

/-- **A run** keeps a matcher well formed. -/
theorem WellFormed.after (h : m.WellFormed) (calls : List Call) : (m.after calls).WellFormed := by
  induction calls generalizing m with
  | nil => exact h
  | cons c cs ih => exact ih (h.call c)

/-- A matcher without threads has none where a stream begins. -/
theorem frontier_after_of_getLast? {calls : List Call} (h : m.frontier = [])
    (hlast : ∀ c ∈ calls.getLast?, c = .reset) : (m.after calls).frontier = [] := by
  cases hc : calls.getLast? with
  | none =>
    obtain rfl := List.getLast?_eq_none_iff.mp hc
    exact h
  | some c =>
    obtain ⟨earlier, rfl⟩ := List.getLast?_eq_some_iff.mp hc
    obtain rfl := hlast c hc
    rw [after_append]
    rfl

/-- A matcher without threads gets none as long as all tokens are passed over. -/
theorem frontier_after_eq_nil {calls : List Call} (h : m.frontier = [])
    (hs : ∀ t, .add t ∈ calls → m.skips t = true) : (m.after calls).frontier = [] := by
  induction calls generalizing m with
  | nil => exact h
  | cons c cs ih =>
    have hskips : ∀ t, .add t ∈ cs → (m.call c).2.skips t = true := by
      intro t ht
      have hp : (m.call c).2.pattern = m.pattern := call_pattern m c
      exact (skips_congr (by rw [hp]) t).trans (hs t (List.mem_cons_of_mem c ht))
    refine ih ?_ hskips
    cases c with
    | finish => exact h
    | reset => rfl
    | add t =>
      show (m.add t).2.frontier = []
      rw [add_of_skips (hs t List.mem_cons_self)]
      exact h

end Matcher

theorem matcher_wellFormed (p : CompiledPattern) : p.matcher.WellFormed :=
  Matcher.wellFormed_of_frontier_eq_nil Pattern.limited_next rfl

end Motif
