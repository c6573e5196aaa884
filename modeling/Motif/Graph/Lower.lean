import Motif.Graph.Basic

/-!
# From trees to graphs (specification §4.2 to §4.6, §9)

Elements are lowered from the last to the first, so that each knows what comes after it; the
branches of an alternation all lead to what comes after the alternation, and are lowered in order.
The nodes that an element contains are made before its own, and what comes after it before that: so
links lead to smaller numbers, and the node of the whole pattern is the last. Whether the start of
the text is asked for is noted as anchors are met, and is then true of the nodes (`lower_grows`).

`Arena` is the `GraphBuilder`; `lower` and `lowerAll` are `lower_node` and `lower_sequence`.

Lowering fails at a group without elements and at a regular expression that the engine refuses.

Out of scope: the text of the pattern, which a fault does not carry (see `Fault.message`).
-/

namespace Motif.Graph

open Pattern

/-- A mapped result comes from a result. -/
theorem map_eq_ok {α β ε : Type} {f : α → β} {r : Except ε α} {b : β} (h : r.map f = .ok b) :
    ∃ a, r = .ok a ∧ f a = b := by
  cases r with
  | error e => cases h
  | ok a => exact ⟨a, rfl, Except.ok.inj h⟩

variable [RegexEngine]

/-- What has been made so far: nodes, and whether an anchor of the start has been met. -/
structure Arena where
  nodes : Array Node := #[]
  hasStartAnchor : Bool := false

namespace Arena

/-- The number and the arena of one more node. -/
def add (ar : Arena) (n : Node) : Nat × Arena :=
  (ar.nodes.size, { ar with nodes := ar.nodes.push n })

/-- The arena once an anchor has been met. -/
def meet (ar : Arena) (s : Sentinel) : Arena :=
  { ar with hasStartAnchor := ar.hasStartAnchor || s = .start }

end Arena

mutual

/-- Lowers an element that `next` comes after. -/
def lower : Element → (next : Option Nat) → Arena → Except Fault (Nat × Arena)
  | .token t, next, ar => (Atom.compile t).map fun a => ar.add (.atom a next)
  | .anchor s, next, ar => .ok ((ar.meet s).add (.anchor s next))
  | .group elements, next, ar =>
    match lowerAll elements next ar with
    | .error e => .error e
    | .ok (none, _) => .error .emptyPattern
    | .ok (some head, ar) => .ok (ar.add (.sequence head next))
  | .alternation branches, next, ar =>
    (lowerBranches branches next ar).map fun (ids, ar) => ar.add (.alternation ids next)
  | .negation e, next, ar =>
    (lower e none ar).map fun (body, ar) => ar.add (.negation body next)
  | .repetition e q, next, ar =>
    (lower e none ar).map fun (body, ar) => ar.add (.repetition body q.span next)

/-- Lowers elements that stand one after the other, and returns the first of them. -/
def lowerAll : List Element → (exit : Option Nat) → Arena → Except Fault (Option Nat × Arena)
  | [], _, ar => .ok (none, ar)
  | e :: es, exit, ar =>
    match lowerAll es exit ar with
    | .error e => .error e
    | .ok (next, ar) => (lower e (next.or exit) ar).map fun (id, ar) => (some id, ar)

/-- Lowers branches that `exit` comes after. -/
def lowerBranches : List Element → (exit : Option Nat) → Arena → Except Fault (List Nat × Arena)
  | [], _, ar => .ok ([], ar)
  | e :: es, exit, ar =>
    match lower e exit ar with
    | .error e => .error e
    | .ok (id, ar) => (lowerBranches es exit ar).map fun (ids, ar) => (id :: ids, ar)

end

/-! ## Links lead to smaller numbers, and the anchor of the start is known -/

/-- A node may be added whose links lead to nodes that are there. -/
theorem Node.Descending.push {nodes : Array Node} {n : Node} (h : Descending nodes)
    (hn : ∀ l ∈ n.links, l < nodes.size) : Descending (nodes.push n) := by
  intro id m hm l hl
  rw [Array.getElem?_push] at hm
  split at hm
  · obtain rfl := Option.some.inj hm
    rename_i hid
    exact hid ▸ hn l hl
  · exact h id m hm l hl

/-- What holds of every arena that lowering makes. -/
structure Arena.WellFormed (ar : Arena) : Prop where
  descending : Node.Descending ar.nodes
  hasStartAnchor_eq : ar.hasStartAnchor = ar.nodes.any (·.isStartAnchor)

/-- What lowering makes of an arena is well formed, and no node is lost. -/
structure Grows (ar ar' : Arena) : Prop where
  wellFormed : ar'.WellFormed
  size_le : ar.nodes.size ≤ ar'.nodes.size

theorem Arena.wellFormed_empty : ({} : Arena).WellFormed :=
  ⟨fun id n hn => by simp at hn, by simp⟩

theorem Grows.refl {ar : Arena} (h : ar.WellFormed) : Grows ar ar :=
  ⟨h, Nat.le_refl _⟩

theorem Grows.trans {ar ar' ar'' : Arena} (h : Grows ar ar') (h' : Grows ar' ar'') :
    Grows ar ar'' :=
  ⟨h'.wellFormed, Nat.le_trans h.size_le h'.size_le⟩

/-- A node other than the anchor of the start is added as it is: its parts have been made since, and
what comes after it was there before. -/
theorem Grows.add {ar ar' : Arena} {n : Node} (h : Grows ar ar')
    (hparts : ∀ l ∈ n.parts, l < ar'.nodes.size) (hnext : ∀ l ∈ n.next, l < ar.nodes.size)
    (hs : n.isStartAnchor = false) :
    Grows ar (ar'.add n).2 ∧ (ar'.add n).1 < (ar'.add n).2.nodes.size := by
  have hlinks : ∀ l ∈ n.links, l < ar'.nodes.size := by
    intro l hl
    rcases List.mem_append.mp hl with hl | hl
    · exact hparts l hl
    · exact Nat.lt_of_lt_of_le (hnext l (Option.mem_toList.mp hl)) h.size_le
  refine ⟨⟨⟨h.wellFormed.descending.push hlinks, ?_⟩, ?_⟩, ?_⟩
  · simp [Arena.add, h.wellFormed.hasStartAnchor_eq, hs]
  · simpa [Arena.add] using Nat.le_succ_of_le h.size_le
  · simp [Arena.add]

/-- An anchor is added once it has been met. -/
theorem Grows.add_anchor {ar : Arena} {s : Sentinel} {next : Option Nat} (h : ar.WellFormed)
    (hn : ∀ n ∈ next, n < ar.nodes.size) :
    Grows ar ((ar.meet s).add (.anchor s next)).2 ∧
      ((ar.meet s).add (.anchor s next)).1 < ((ar.meet s).add (.anchor s next)).2.nodes.size := by
  have hl : ∀ l ∈ (Node.anchor s next).links, l < ar.nodes.size := by
    simpa [Node.links, Node.parts, Node.next] using hn
  have hflag : (Node.anchor s next).isStartAnchor = decide (s = .start) := by
    cases s <;> rfl
  refine ⟨⟨⟨h.descending.push hl, ?_⟩, ?_⟩, ?_⟩
  · simp [Arena.add, Arena.meet, h.hasStartAnchor_eq, hflag]
  · simp [Arena.add, Arena.meet]
  · simp [Arena.add, Arena.meet]

mutual

theorem lower_grows : ∀ {e : Element} {next : Option Nat} {ar ar' : Arena} {id : Nat},
    ar.WellFormed → (∀ n ∈ next, n < ar.nodes.size) → lower e next ar = .ok (id, ar') →
      Grows ar ar' ∧ id < ar'.nodes.size
  | .token t, next, ar, ar', id, hw, hn, h => by
    unfold lower at h
    obtain ⟨a, _, h⟩ := map_eq_ok h
    obtain ⟨rfl, rfl⟩ := Prod.mk.inj h
    exact (Grows.refl hw).add (by simp [Node.parts]) hn rfl
  | .anchor s, next, ar, ar', id, hw, hn, h => by
    unfold lower at h
    obtain ⟨rfl, rfl⟩ := Prod.mk.inj (Except.ok.inj h)
    exact Grows.add_anchor hw hn
  | .group es, next, ar, ar', id, hw, hn, h => by
    unfold lower at h
    split at h
    · cases h
    · cases h
    · rename_i head ar1 hl
      obtain ⟨rfl, rfl⟩ := Prod.mk.inj (Except.ok.inj h)
      obtain ⟨hg, hh⟩ := lowerAll_grows hw hn hl
      exact hg.add (List.forall_mem_singleton.mpr (hh _ rfl)) hn rfl
  | .alternation bs, next, ar, ar', id, hw, hn, h => by
    unfold lower at h
    obtain ⟨⟨ids, ar1⟩, hl, h⟩ := map_eq_ok h
    obtain ⟨rfl, rfl⟩ := Prod.mk.inj h
    obtain ⟨hg, hh⟩ := lowerBranches_grows hw hn hl
    exact hg.add hh hn rfl
  | .negation e, next, ar, ar', id, hw, hn, h => by
    unfold lower at h
    obtain ⟨⟨body, ar1⟩, hl, h⟩ := map_eq_ok h
    obtain ⟨rfl, rfl⟩ := Prod.mk.inj h
    obtain ⟨hg, hh⟩ := lower_grows hw (by simp) hl
    exact hg.add (List.forall_mem_singleton.mpr hh) hn rfl
  | .repetition e q, next, ar, ar', id, hw, hn, h => by
    unfold lower at h
    obtain ⟨⟨body, ar1⟩, hl, h⟩ := map_eq_ok h
    obtain ⟨rfl, rfl⟩ := Prod.mk.inj h
    obtain ⟨hg, hh⟩ := lower_grows hw (by simp) hl
    exact hg.add (List.forall_mem_singleton.mpr hh) hn rfl

theorem lowerAll_grows : ∀ {es : List Element} {exit : Option Nat} {ar ar' : Arena}
    {head : Option Nat}, ar.WellFormed → (∀ n ∈ exit, n < ar.nodes.size) →
      lowerAll es exit ar = .ok (head, ar') → Grows ar ar' ∧ ∀ n ∈ head, n < ar'.nodes.size
  | [], exit, ar, ar', head, hw, hn, h => by
    unfold lowerAll at h
    obtain ⟨rfl, rfl⟩ := Prod.mk.inj (Except.ok.inj h)
    exact ⟨.refl hw, by simp⟩
  | e :: es, exit, ar, ar', head, hw, hn, h => by
    unfold lowerAll at h
    split at h
    · cases h
    · rename_i next ar1 hl
      obtain ⟨hg, hh⟩ := lowerAll_grows hw hn hl
      obtain ⟨⟨id, ar2⟩, hl, h⟩ := map_eq_ok h
      obtain ⟨rfl, rfl⟩ := Prod.mk.inj h
      have hor : ∀ n ∈ next.or exit, n < ar1.nodes.size := by
        intro n hm
        cases next with
        | none => exact Nat.lt_of_lt_of_le (hn n (by simpa using hm)) hg.size_le
        | some m => exact hh n (by simpa using hm)
      obtain ⟨hg', hid⟩ := lower_grows hg.wellFormed hor hl
      exact ⟨hg.trans hg', by simpa using hid⟩

theorem lowerBranches_grows : ∀ {es : List Element} {exit : Option Nat} {ar ar' : Arena}
    {ids : List Nat}, ar.WellFormed → (∀ n ∈ exit, n < ar.nodes.size) →
      lowerBranches es exit ar = .ok (ids, ar') → Grows ar ar' ∧ ∀ n ∈ ids, n < ar'.nodes.size
  | [], exit, ar, ar', ids, hw, hn, h => by
    unfold lowerBranches at h
    obtain ⟨rfl, rfl⟩ := Prod.mk.inj (Except.ok.inj h)
    exact ⟨.refl hw, by simp⟩
  | e :: es, exit, ar, ar', ids, hw, hn, h => by
    unfold lowerBranches at h
    split at h
    · cases h
    · rename_i id ar1 hl
      obtain ⟨hg, hid⟩ := lower_grows hw hn hl
      obtain ⟨⟨ids', ar2⟩, hl, h⟩ := map_eq_ok h
      obtain ⟨rfl, rfl⟩ := Prod.mk.inj h
      obtain ⟨hg', hh⟩ := lowerBranches_grows hg.wellFormed
        (fun n hm => Nat.lt_of_lt_of_le (hn n hm) hg.size_le) hl
      refine ⟨hg.trans hg', ?_⟩
      intro n hm
      rcases List.mem_cons.mp hm with rfl | hm
      · exact Nat.lt_of_lt_of_le hid hg'.size_le
      · exact hh n hm

end

/-- The graph of a pattern. Its entry is a sequence of the elements that nothing comes after. -/
def ofElements (elements : List Element) : Except Fault Graph :=
  match h : lower (.group elements) none {} with
  | .error e => .error e
  | .ok (entry, ar) =>
    have hg := lower_grows Arena.wellFormed_empty (by simp) h
    .ok {
      nodes := ar.nodes
      entry
      entry_lt := hg.2
      descends := hg.1.wellFormed.descending
      hasStartAnchor := ar.hasStartAnchor
      hasStartAnchor_eq := hg.1.wellFormed.hasStartAnchor_eq }

end Motif.Graph
