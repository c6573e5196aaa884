import Motif.Graph.Lower

/-!
# Trees in graphs (specification §9)

`Lowered g e id next` says that the node `id` of a graph stands for the element `e` that `next`
comes after: it is a node of the right kind, and the nodes it contains stand for the elements of
`e`. Lowering makes such nodes and leaves those made before as they are, so what is to be known of
the graph of a pattern can be had by recursion on the pattern.

* `ofElements_eq_ok_iff`: the graph of a pattern is what its elements are lowered to.
* `lowered_ofElements`: the entry of the graph of a pattern stands for the pattern.
* `Lowered.next_lt`: what comes after an element has a smaller number.
-/

namespace Motif.Graph

open Pattern

variable [RegexEngine]

mutual

/-- The node `id` stands for an element that `next` comes after. -/
inductive Lowered (g : Graph) : Element → (id : Nat) → (next : Option Nat) → Prop
  | token {t : TokenTest} {a : Atom} {id : Nat} {next : Option Nat} :
    Atom.compile t = .ok a → g.node? id = some (.atom a next) → Lowered g (.token t) id next
  | anchor {s : Sentinel} {id : Nat} {next : Option Nat} :
    g.node? id = some (.anchor s next) → Lowered g (.anchor s) id next
  | group {es : List Element} {id head : Nat} {next : Option Nat} :
    LoweredAll g es (some head) next → es ≠ [] → g.node? id = some (.sequence head next) →
      Lowered g (.group es) id next
  | alternation {es : List Element} {ids : List Nat} {id : Nat} {next : Option Nat} :
    LoweredEach g es ids next → g.node? id = some (.alternation ids next) →
      Lowered g (.alternation es) id next
  | negation {e : Element} {id body : Nat} {next : Option Nat} :
    Lowered g e body none → g.node? id = some (.negation body next) →
      Lowered g (.negation e) id next
  | repetition {e : Element} {q : Quantifier} {id body : Nat} {next : Option Nat} :
    Lowered g e body none → g.node? id = some (.repetition body q.span next) →
      Lowered g (.repetition e q) id next

/-- The nodes from `head` on stand for elements one after the other, after which comes `exit`. -/
inductive LoweredAll (g : Graph) :
    List Element → (head : Option Nat) → (exit : Option Nat) → Prop
  | nil {exit : Option Nat} : LoweredAll g [] exit exit
  | cons {e : Element} {es : List Element} {id : Nat} {next exit : Option Nat} :
    Lowered g e id next → LoweredAll g es next exit → LoweredAll g (e :: es) (some id) exit

/-- The nodes `ids` stand for elements, after each of which comes `exit`. -/
inductive LoweredEach (g : Graph) :
    List Element → (ids : List Nat) → (exit : Option Nat) → Prop
  | nil {exit : Option Nat} : LoweredEach g [] [] exit
  | cons {e : Element} {es : List Element} {id : Nat} {ids : List Nat} {exit : Option Nat} :
    Lowered g e id exit → LoweredEach g es ids exit → LoweredEach g (e :: es) (id :: ids) exit

end

variable {g : Graph}

/-- What comes after an element has a smaller number. -/
theorem Lowered.next_lt {e : Element} {id n : Nat} (h : Lowered g e id (some n)) : n < id := by
  cases h with
  | token _ hn | anchor hn => exact link_lt hn (by simp [Node.links, Node.next])
  | group _ _ hn | alternation _ hn => exact link_lt hn (by simp [Node.links, Node.next])
  | negation _ hn | repetition _ hn => exact link_lt hn (by simp [Node.links, Node.next])

/-- What comes after several elements has a smaller number than the first of them. -/
theorem LoweredAll.exit_lt : ∀ {es : List Element} {id n : Nat},
    es ≠ [] → LoweredAll g es (some id) (some n) → n < id
  | [], _, _, h, _ => absurd rfl h
  | [e], id, n, _, .cons he .nil => he.next_lt
  | e :: e' :: es, id, n, _, .cons he (.cons he' hes) =>
    Nat.lt_trans (exit_lt (by simp) (.cons he' hes)) he.next_lt

theorem Lowered.ne_next {e : Element} {id : Nat} {next : Option Nat} (h : Lowered g e id next) :
    some id ≠ next := by
  rintro rfl
  exact Nat.lt_irrefl id h.next_lt

theorem LoweredAll.ne_exit {es : List Element} {id : Nat} {exit : Option Nat} (hne : es ≠ [])
    (h : LoweredAll g es (some id) exit) : some id ≠ exit := by
  rintro rfl
  exact Nat.lt_irrefl id (exit_lt hne h)

/-! ## Lowering makes such nodes -/

/-- The nodes of one arena are in another, under the same numbers. -/
def Keeps (ar ar' : Arena) : Prop :=
  ∀ (id : Nat) (n : Node), ar.nodes[id]? = some n → ar'.nodes[id]? = some n

/-- The nodes of an arena are in a graph, under the same numbers. -/
def Includes (g : Graph) (ar : Arena) : Prop :=
  ∀ (id : Nat) (n : Node), ar.nodes[id]? = some n → g.node? id = some n

theorem Keeps.refl (ar : Arena) : Keeps ar ar :=
  fun _ _ h => h

theorem Keeps.trans {a b c : Arena} (hab : Keeps a b) (hbc : Keeps b c) : Keeps a c :=
  fun id n h => hbc id n (hab id n h)

theorem Includes.of_keeps {ar ar' : Arena} (h : Includes g ar') (hk : Keeps ar ar') :
    Includes g ar :=
  fun id n hn => h id n (hk id n hn)

theorem keeps_add (ar : Arena) (n : Node) : Keeps ar (ar.add n).2 := by
  intro id m hm
  obtain ⟨hlt, -⟩ := Array.getElem?_eq_some_iff.mp hm
  rw [Arena.add, Array.getElem?_push, if_neg (Nat.ne_of_lt hlt)]
  exact hm

theorem Includes.node?_add {ar : Arena} {n : Node} (h : Includes g (ar.add n).2) :
    g.node? (ar.add n).1 = some n :=
  h _ _ (by simp [Arena.add])

mutual

theorem lower_lowered : ∀ {e : Element} {next : Option Nat} {ar ar' : Arena} {id : Nat},
    lower e next ar = .ok (id, ar') →
      Keeps ar ar' ∧ ∀ {g : Graph}, Includes g ar' → Lowered g e id next
  | .token t, next, ar, ar', id, h => by
    unfold lower at h
    obtain ⟨a, ha, h⟩ := map_eq_ok h
    obtain ⟨rfl, rfl⟩ := Prod.mk.inj h
    exact ⟨keeps_add _ _, fun hg => .token ha hg.node?_add⟩
  | .anchor s, next, ar, ar', id, h => by
    unfold lower at h
    obtain ⟨rfl, rfl⟩ := Prod.mk.inj (Except.ok.inj h)
    exact ⟨keeps_add (ar.meet s) _, fun hg => .anchor hg.node?_add⟩
  | .group es, next, ar, ar', id, h => by
    unfold lower at h
    split at h
    · cases h
    · cases h
    · rename_i head ar1 hl
      obtain ⟨rfl, rfl⟩ := Prod.mk.inj (Except.ok.inj h)
      obtain ⟨hk, hall, hne⟩ := lowerAll_lowered hl
      refine ⟨hk.trans (keeps_add _ _), fun hg => ?_⟩
      exact .group (hall (hg.of_keeps (keeps_add _ _))) (hne (by simp)) hg.node?_add
  | .alternation es, next, ar, ar', id, h => by
    unfold lower at h
    obtain ⟨⟨ids, ar1⟩, hl, h⟩ := map_eq_ok h
    obtain ⟨rfl, rfl⟩ := Prod.mk.inj h
    obtain ⟨hk, heach⟩ := lowerBranches_lowered hl
    refine ⟨hk.trans (keeps_add _ _), fun hg => ?_⟩
    exact .alternation (heach (hg.of_keeps (keeps_add _ _))) hg.node?_add
  | .negation e, next, ar, ar', id, h => by
    unfold lower at h
    obtain ⟨⟨body, ar1⟩, hl, h⟩ := map_eq_ok h
    obtain ⟨rfl, rfl⟩ := Prod.mk.inj h
    obtain ⟨hk, hb⟩ := lower_lowered hl
    refine ⟨hk.trans (keeps_add _ _), fun hg => ?_⟩
    exact .negation (hb (hg.of_keeps (keeps_add _ _))) hg.node?_add
  | .repetition e q, next, ar, ar', id, h => by
    unfold lower at h
    obtain ⟨⟨body, ar1⟩, hl, h⟩ := map_eq_ok h
    obtain ⟨rfl, rfl⟩ := Prod.mk.inj h
    obtain ⟨hk, hb⟩ := lower_lowered hl
    refine ⟨hk.trans (keeps_add _ _), fun hg => ?_⟩
    exact .repetition (hb (hg.of_keeps (keeps_add _ _))) hg.node?_add

theorem lowerAll_lowered : ∀ {es : List Element} {exit : Option Nat} {ar ar' : Arena}
    {head : Option Nat}, lowerAll es exit ar = .ok (head, ar') →
      Keeps ar ar' ∧ (∀ {g : Graph}, Includes g ar' → LoweredAll g es (head.or exit) exit) ∧
        (head ≠ none → es ≠ [])
  | [], exit, ar, ar', head, h => by
    unfold lowerAll at h
    obtain ⟨rfl, rfl⟩ := Prod.mk.inj (Except.ok.inj h)
    exact ⟨.refl _, fun _ => .nil, fun h => absurd rfl h⟩
  | e :: es, exit, ar, ar', head, h => by
    unfold lowerAll at h
    split at h
    · cases h
    · rename_i next ar1 hl
      obtain ⟨hk, hall, -⟩ := lowerAll_lowered hl
      obtain ⟨⟨id, ar2⟩, hl, h⟩ := map_eq_ok h
      obtain ⟨rfl, rfl⟩ := Prod.mk.inj h
      obtain ⟨hk', he⟩ := lower_lowered hl
      exact ⟨hk.trans hk', fun hg => .cons (he hg) (hall (hg.of_keeps hk')), fun _ => by simp⟩

theorem lowerBranches_lowered : ∀ {es : List Element} {exit : Option Nat} {ar ar' : Arena}
    {ids : List Nat}, lowerBranches es exit ar = .ok (ids, ar') →
      Keeps ar ar' ∧ ∀ {g : Graph}, Includes g ar' → LoweredEach g es ids exit
  | [], exit, ar, ar', ids, h => by
    unfold lowerBranches at h
    obtain ⟨rfl, rfl⟩ := Prod.mk.inj (Except.ok.inj h)
    exact ⟨.refl _, fun _ => .nil⟩
  | e :: es, exit, ar, ar', ids, h => by
    unfold lowerBranches at h
    split at h
    · cases h
    · rename_i id ar1 hl
      obtain ⟨hk, he⟩ := lower_lowered hl
      obtain ⟨⟨ids', ar2⟩, hl, h⟩ := map_eq_ok h
      obtain ⟨rfl, rfl⟩ := Prod.mk.inj h
      obtain ⟨hk', heach⟩ := lowerBranches_lowered hl
      exact ⟨hk.trans hk', fun hg => .cons (he (hg.of_keeps hk')) (heach hg)⟩

end

/-- A graph is known from its nodes and its entry. -/
theorem ext {g g' : Graph} (hn : g.nodes = g'.nodes) (he : g.entry = g'.entry) : g = g' := by
  obtain ⟨nodes, entry, hlt, hd, nullable, hnull, start, hstart⟩ := g
  obtain ⟨nodes', entry', hlt', hd', nullable', hnull', start', hstart'⟩ := g'
  obtain rfl : nodes = nodes' := hn
  obtain rfl : entry = entry' := he
  obtain rfl : nullable = nullable' := hnull.trans hnull'.symm
  obtain rfl : start = start' := hstart.trans hstart'.symm
  rfl

/-- The graph of a pattern is what its elements are lowered to. -/
theorem ofElements_eq_ok_iff {es : List Element} :
    ofElements es = .ok g ↔
      lower (.group es) none {} = .ok (g.entry, ⟨g.nodes, g.hasStartAnchor⟩) := by
  unfold ofElements
  split
  · rename_i hl
    rw [hl]
    exact iff_of_false (by simp) (by simp)
  · rename_i entry ar hl
    constructor
    · intro h
      obtain rfl := Except.ok.inj h
      exact hl
    · intro h
      obtain ⟨he, rfl⟩ := Prod.mk.inj (Except.ok.inj (hl.symm.trans h))
      exact congrArg Except.ok (ext rfl he)

/-- **The graph of a pattern** has an entry that stands for the pattern. -/
theorem lowered_ofElements {es : List Element} (h : ofElements es = .ok g) :
    Lowered g (.group es) g.entry none :=
  (lower_lowered (ofElements_eq_ok_iff.mp h)).2 fun _ _ h => h

end Motif.Graph
