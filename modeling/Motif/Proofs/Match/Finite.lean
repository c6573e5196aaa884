import Mathlib
import Motif.Proofs.Match.Scope

/-!
# Finitely many threads (specification §5)

Only finitely many threads are in a scope. The nodes of a scope are those below where it begins, a
count is one of those that make a difference, and the threads of a body, of which there are finitely
many since the body has a smaller number, can stand in a list without repetitions in finitely many
ways. So however long a stream is, a matcher holds at most so many threads as the pattern admits.

Out of scope: how many threads that are.

* `finite_inScope`: only finitely many threads are in a scope.
* **`frontier_subset_scope`**: a matcher only ever holds threads of a finite set, which depends on
  the graph alone.
-/

namespace Motif

/-- Finitely many things can stand in a list without repetitions in finitely many ways. -/
theorem finite_nodup_lists {α : Type} {s : Set α} (hs : s.Finite) :
    {l : List α | l.Nodup ∧ ∀ a ∈ l, a ∈ s}.Finite := by
  classical
  have := hs.fintype
  refine (Set.finite_range fun l : {l : List s // l.Nodup} => l.1.map Subtype.val).subset ?_
  rintro l ⟨hn, hl⟩
  -- The lists of the subtype are finitely many; `l` is one of them, its elements with their proofs.
  have hmap : (l.attachWith (· ∈ s) hl).map Subtype.val = l := List.attachWith_map_subtype_val _
  exact ⟨⟨l.attachWith (· ∈ s) hl, .of_map Subtype.val (hmap.symm ▸ hn)⟩, hmap⟩

theorem Pattern.Span.finite_holds (s : Span) : {c | s.Holds c}.Finite := by
  refine (Set.finite_Iic (Max.max s.min.toNat (s.max.elim 0 (·.toNat)))).subset ?_
  rintro c (rfl | ⟨hmax, hmin⟩)
  · exact Nat.zero_le _
  · rw [Set.mem_Iic]
    cases hm : s.max with
    | none => exact Nat.le_trans (hmin hm) (Nat.le_max_left _ _)
    | some m => exact Nat.le_trans (Nat.le_of_lt (hmax m hm)) (Nat.le_max_right _ _)

variable [RegexEngine]

namespace Thread

/-- The node that a thread is in. -/
def node : Thread → Nat
  | before id | repetition id _ _ | negation id _ => id

/-- The threads that a thread holds. -/
def held : Thread → List Thread
  | before _ => []
  | repetition _ _ threads | negation _ threads => threads

variable {g : Graph} {a b : Nat} {t : Thread}

theorem InScope.reachable (h : t.InScope g a) : g.Reachable a t.node := by
  cases h with
  | before hid _ | repetition hid _ _ _ _ _ | negation hid _ _ _ => exact hid

/-- A scope contains the scopes of all nodes in it. -/
theorem InScope.mono (h : t.InScope g b) (hab : g.Reachable a b) : t.InScope g a := by
  cases h with
  | before hid hlt => exact .before (hab.trans hid) hlt
  | repetition hid hn hne hnodup hts hc => exact .repetition (hab.trans hid) hn hne hnodup hts hc
  | negation hid hn hnodup hts => exact .negation (hab.trans hid) hn hnodup hts

/-- The threads that a thread in scope holds are in scope. -/
theorem InScope.held (h : t.InScope g a) : ∀ u ∈ t.held, u.InScope g a := by
  cases h with
  | before => exact List.forall_mem_nil _
  | repetition hid hn _ _ hts _ =>
    exact fun u hu => (hts u hu).mono (hid.link hn List.mem_cons_self)
  | negation hid hn _ hts =>
    exact fun u hu => (hts u hu).mono (hid.link hn List.mem_cons_self)

end Thread

namespace Graph

variable {g : Graph} {id : Nat}

/-- Only finitely many threads are in a repetition if only finitely many are in the scope of its
body. -/
theorem finite_repetitions (root : Nat) (h : ∀ l < id, {t : Thread | t.InScope g l}.Finite) :
    {t : Thread | ∃ count threads, t = .repetition id count threads ∧ t.InScope g root}.Finite := by
  by_cases hn : ∃ body span next, g.node? id = some (.repetition body span next)
  · obtain ⟨body, span, next, hn⟩ := hn
    have hlists := finite_nodup_lists (h body (link_lt hn List.mem_cons_self))
    refine (span.finite_holds.image2 (Thread.repetition id) hlists).subset ?_
    rintro _ ⟨count, threads, rfl, ht⟩
    cases ht with
    | repetition _ hn' _ hnodup hts hc =>
      obtain ⟨rfl, rfl, rfl⟩ := Node.repetition.inj (Option.some.inj (hn.symm.trans hn'))
      exact ⟨count, hc, threads, ⟨hnodup, hts⟩, rfl⟩
  · refine Set.finite_empty.subset ?_
    rintro _ ⟨count, threads, rfl, ht⟩
    cases ht with
    | repetition _ hn' => exact hn ⟨_, _, _, hn'⟩

/-- Only finitely many threads are in a negation if only finitely many are in the scope of its
body. -/
theorem finite_negations (root : Nat) (h : ∀ l < id, {t : Thread | t.InScope g l}.Finite) :
    {t : Thread | ∃ threads, t = .negation id threads ∧ t.InScope g root}.Finite := by
  by_cases hn : ∃ body next, g.node? id = some (.negation body next)
  · obtain ⟨body, next, hn⟩ := hn
    have hlists := finite_nodup_lists (h body (link_lt hn List.mem_cons_self))
    refine (hlists.image (Thread.negation id)).subset ?_
    rintro _ ⟨threads, rfl, ht⟩
    cases ht with
    | negation _ hn' hnodup hts =>
      obtain ⟨rfl, rfl⟩ := Node.negation.inj (Option.some.inj (hn.symm.trans hn'))
      exact ⟨threads, ⟨hnodup, hts⟩, rfl⟩
  · refine Set.finite_empty.subset ?_
    rintro _ ⟨threads, rfl, ht⟩
    cases ht with
    | negation _ hn' => exact hn ⟨_, _, hn'⟩

/-- Only finitely many threads of a scope are in a node if only finitely many are in scopes that
begin before it. -/
theorem finite_inScope_node (root : Nat) (h : ∀ l < id, {t : Thread | t.InScope g l}.Finite) :
    {t : Thread | t.InScope g root ∧ t.node = id}.Finite := by
  have hrest := (finite_repetitions root h).union (finite_negations root h)
  refine (hrest.insert (.before id)).subset ?_
  rintro t ⟨ht, rfl⟩
  cases t with
  | before id => exact .inl rfl
  | repetition id count threads => exact .inr (.inl ⟨count, threads, rfl, ht⟩)
  | negation id threads => exact .inr (.inr ⟨threads, rfl, ht⟩)

/-- **Only finitely many threads** are in a scope. -/
theorem finite_inScope (g : Graph) (root : Nat) : {t : Thread | t.InScope g root}.Finite := by
  induction root using Nat.strongRecOn with
  | ind root ih =>
    have hnode : ∀ id ∈ Set.Iic root, {t : Thread | t.InScope g root ∧ t.node = id}.Finite :=
      fun id hid => finite_inScope_node root fun l hl => ih l (Nat.lt_of_lt_of_le hl hid)
    refine ((Set.finite_Iic root).biUnion hnode).subset fun t ht => ?_
    exact Set.mem_biUnion (Set.mem_Iic.mpr ht.reachable.le) ⟨ht, rfl⟩

/-- The threads in the scope of the whole pattern. -/
noncomputable def scope (g : Graph) : Finset Thread :=
  (finite_inScope g g.entry).toFinset

@[simp] theorem mem_scope {t : Thread} : t ∈ g.scope ↔ t.InScope g g.entry :=
  Set.Finite.mem_toFinset _

end Graph

/-- **A matcher only ever holds threads of a finite set**, which depends on the graph alone. All
threads that are reported for any symbol at any point of a run are in it, and all that these hold;
so the frontier is never longer than the set is large, whatever the options allow. -/
theorem CompiledPattern.frontier_subset_scope (p : CompiledPattern) (calls : List Call) :
    let m := p.matcher.after calls
    (∀ t ∈ m.frontier, t ∈ p.graph.scope) ∧
    (∀ t ∈ m.primed, t ∈ p.graph.scope) ∧
    (∀ sym, ∀ t ∈ (m.run sym).threads, t ∈ p.graph.scope) ∧
    (∀ t ∈ p.graph.scope, ∀ u ∈ t.held, u ∈ p.graph.scope) ∧
    m.frontier.length ≤ p.graph.scope.card := by
  intro m
  have hp : m.pattern = p := Matcher.after_pattern _ _
  have hm : m.WellFormed := (matcher_wellFormed p).after calls
  have hfrontier : ∀ t ∈ m.frontier, t ∈ p.graph.scope :=
    fun t ht => Graph.mem_scope.mpr (hp ▸ hm.inScope t ht)
  refine ⟨hfrontier, ?_, ?_, ?_, ?_⟩
  · exact fun t ht => Graph.mem_scope.mpr (hp ▸ hm.primed t ht)
  · exact fun sym t ht => Graph.mem_scope.mpr (hp ▸ hm.run t ht)
  · exact fun t ht u hu => Graph.mem_scope.mpr ((Graph.mem_scope.mp ht).held u hu)
  · classical
    rw [← List.toFinset_card_of_nodup hm.nodup]
    exact Finset.card_le_card fun t ht => hfrontier t (List.mem_toFinset.mp ht)

end Motif
