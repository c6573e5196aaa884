import Motif.Proofs.Graph.Shape
import Motif.Proofs.Notation.Print
import Motif.Regex.Standard

/-!
# Trees as the text of their graphs (specification E5)

The text of a graph can be said of the tree alone: a chain of links that is shared by the elements
of a group, by the branches of an alternation and by what comes after them is left where the group
or the alternation ends. To write a graph, every node but the entry is visited, and none of them
twice; the nodes that are visited for one element are those in it, whatever comes after the element.

* `rendered_eq_text_normal`: a tree is rendered like the tree in its normal form is written.
* `chain_congr`: a text is made of the nodes that are visited for it, and of nothing else.
* `lower_visited`: the nodes that are visited from an element on are those made for it, each once,
  and then those from what comes after it on.
* **`CompiledPattern.text_eq_rendered`**: the text of a compiled pattern is its tree, rendered, and
  is written in one visit to each node.
-/

namespace Motif.Pattern.Element

mutual

/-- An element as text, with every quantifier in its shortest form. A test of a token is written as
the atom is that it is compiled to (`Graph.text_of_compile`). -/
def rendered : Element → String
  | token t => t.text
  | anchor s => Graph.anchorText s
  | group es => "(" ++ Graph.spaced (renderedAll es) ++ ")"
  | alternation es => "[" ++ Graph.spaced (renderedAll es) ++ "]"
  | negation e => "!" ++ e.rendered
  | repetition e q => e.rendered ++ q.span.text

/-- Elements as text. -/
def renderedAll : List Element → List String
  | [] => []
  | e :: es => e.rendered :: renderedAll es

end

mutual

/-- An element is rendered like its normal form is written. -/
theorem rendered_eq_text_normal : ∀ e : Element, e.rendered = e.normal.text
  | token t => by
    rw [rendered, normal, rewrite, TokenTest.rewrite_id, text]
  | anchor s => rfl
  | group es => by
    rw [rendered, renderedAll_eq_texts_normal es]
    rfl
  | alternation es => by
    rw [rendered, renderedAll_eq_texts_normal es]
    rfl
  | negation e => by
    rw [rendered, rendered_eq_text_normal e]
    rfl
  | repetition e q => by
    rw [rendered, rendered_eq_text_normal e, ← Span.text_quantifier]
    rfl

theorem renderedAll_eq_texts_normal : ∀ es : List Element, renderedAll es = texts (normalAll es)
  | [] => rfl
  | e :: es => by
    rw [renderedAll, rendered_eq_text_normal e, renderedAll_eq_texts_normal es]
    rfl

end

end Motif.Pattern.Element

namespace Motif.Graph

open Pattern

/-- Where the chains in a node end. -/
def Node.stop [RegexEngine] : Node → Option Nat
  | sequence _ exit | alternation _ exit => exit
  | atom .. | anchor .. | repetition .. | negation .. => none

/-- The numbers of the nodes that are visited to write the chain from a node up to `stop`, in
order. -/
def visited [RegexEngine] (g : Graph) (stop : Option Nat) (id : Nat) : List Nat :=
  if some id = stop then []
  else
    id :: match _h : g.node? id with
      | none => []
      | some n =>
        n.parts.attach.flatMap (fun l => visited g n.stop l.1) ++
          match _hn : n.next with
          | none => []
          | some next => visited g stop next
termination_by id
decreasing_by
  · exact link_lt _h (List.mem_append_left _ l.2)
  · exact link_lt _h (List.mem_append_right _ (by simp [_hn]))

variable [RegexEngine] {g : Graph}

/-- The nodes that are visited in a chain, which may be empty. -/
def visitedFrom (g : Graph) (stop : Option Nat) : (head : Option Nat) → List Nat
  | none => []
  | some id => g.visited stop id

/-- The nodes that are visited to write a graph. The entry is not written if it is a sequence that
nothing comes after. -/
def visitedNodes (g : Graph) : List Nat :=
  match g.node? g.entry with
  | some (.sequence head none) => g.visited none head
  | _ => g.visited none g.entry

theorem visitedFrom_self (stop : Option Nat) : g.visitedFrom stop stop = [] := by
  cases stop with
  | none => rfl
  | some id => rw [visitedFrom, visited, if_pos rfl]

/-- A node is visited, then its parts, and then what comes after it. -/
theorem visited_eq {stop : Option Nat} {id : Nat} {n : Node} (hs : some id ≠ stop)
    (hn : g.node? id = some n) :
    g.visited stop id =
      id :: (n.parts.flatMap (g.visited n.stop) ++ g.visitedFrom stop n.next) := by
  rw [visited, if_neg hs]
  split
  · rename_i h
    cases h.symm.trans hn
  · rename_i m h
    obtain rfl := Option.some.inj (h.symm.trans hn)
    have hparts : (m.parts.attach.flatMap fun l => g.visited m.stop l.1) =
        m.parts.flatMap (g.visited m.stop) := by
      rw [List.flatMap_subtype (g := g.visited m.stop) (fun _ _ => rfl), List.unattach_attach]
    rw [hparts]
    split
    · rename_i hx
      rw [hx]
      rfl
    · rename_i hx
      rw [hx]
      rfl

/-! ## Texts are made of the nodes that are visited -/

theorem chain_of_node?_eq_none {stop : Option Nat} {id : Nat} (hn : g.node? id = none) :
    g.chain stop id = [] := by
  rw [chain]
  split
  · rfl
  · split
    · rfl
    · rename_i n h
      cases h.symm.trans hn

/-- What a node's text takes from the chains in it is what they are up to where they end. -/
theorem Node.text_congr {n : Node} {inner inner' : Option Nat → Nat → String}
    (h : ∀ l ∈ n.parts, inner n.stop l = inner' n.stop l) : n.text inner = n.text inner' := by
  cases n with
  | atom a next | anchor s next => rfl
  | sequence head exit | repetition body span next | negation body next =>
    rw [Node.text, Node.text]
    simpa [Node.parts, Node.stop] using h
  | alternation branches exit =>
    exact congrArg ("[" ++ spaced · ++ "]") (List.map_congr_left h)

/-- Two graphs that have the same nodes where one is visited for a text have the same text there. -/
theorem chain_congr {g' : Graph} {id : Nat} {stop : Option Nat}
    (h : ∀ i ∈ g.visited stop id, g'.node? i = g.node? i) : g'.chain stop id = g.chain stop id := by
  induction id using Nat.strongRecOn generalizing stop with
  | ind id ih =>
    by_cases hs : some id = stop
    · rw [chain, chain, if_pos hs, if_pos hs]
    · have hid : g'.node? id = g.node? id := by
        apply h
        rw [visited, if_neg hs]
        exact List.mem_cons_self
      cases hn : g.node? id with
      | none => rw [chain_of_node?_eq_none hn, chain_of_node?_eq_none (hid.trans hn)]
      | some n =>
        rw [visited_eq hs hn] at h
        rw [chain_eq hs hn, chain_eq hs (hid.trans hn)]
        congr 1
        · refine Node.text_congr fun l hl => congrArg spaced ?_
          refine ih l (link_lt hn (List.mem_append_left _ hl)) fun i hi => h i ?_
          refine List.mem_cons_of_mem _ (List.mem_append_left _ ?_)
          exact List.mem_flatMap.mpr ⟨l, hl, hi⟩
        · cases hx : n.next with
          | none => rfl
          | some next =>
            refine ih next (link_lt hn (List.mem_append_right _ (by simp [hx]))) fun i hi => h i ?_
            refine List.mem_cons_of_mem _ (List.mem_append_right _ ?_)
            rw [hx]
            exact hi

/-! ## Every node is visited once -/

/-- If the nodes that are visited in a node are those made since there were `k`, then with the node
itself they still are. -/
theorem visited_add {ar : Arena} {n : Node} {stop : Option Nat} {k size : Nat}
    (hg : Includes g (ar.add n).2) (hs : some (ar.add n).1 ≠ stop) (hk : ar.nodes.size = k + size)
    (hin : (n.parts.flatMap (g.visited n.stop)).Perm (List.range' k size)) :
    (g.visited stop (ar.add n).1).Perm (List.range' k (size + 1) ++ g.visitedFrom stop n.next) := by
  rw [visited_eq hs hg.node?_add, List.range'_1_concat, ← hk, List.append_assoc]
  exact ((hin.append_right _).cons _).trans List.perm_middle.symm

mutual

/-- **The nodes that are visited from an element on** are those made for it, each once, and then
those from what comes after it on. -/
theorem lower_visited : ∀ {e : Element} {next stop : Option Nat} {ar ar' : Arena} {id : Nat},
    lower e next ar = .ok (id, ar') → Includes g ar' → some id ≠ stop →
      (g.visited stop id).Perm (List.range' ar.nodes.size e.size ++ g.visitedFrom stop next)
  | .token t, next, stop, ar, ar', id, h, hg, hs => by
    unfold lower at h
    obtain ⟨a, -, h⟩ := map_eq_ok h
    obtain ⟨rfl, rfl⟩ := Prod.mk.inj h
    exact visited_add hg hs rfl (.refl _)
  | .anchor s, next, stop, ar, ar', id, h, hg, hs => by
    unfold lower at h
    obtain ⟨rfl, rfl⟩ := Prod.mk.inj (Except.ok.inj h)
    exact visited_add hg hs rfl (.refl _)
  | .group es, next, stop, ar, ar', id, h, hg, hs => by
    unfold lower at h
    split at h
    · cases h
    · cases h
    · rename_i head ar1 hl
      obtain ⟨rfl, rfl⟩ := Prod.mk.inj (Except.ok.inj h)
      -- the elements end where the group does
      have hin := lowerAll_visited hl (hg.of_keeps (keeps_add _ _))
      refine visited_add hg hs (lowerAll_size hl) ?_
      rw [Node.parts, List.flatMap_singleton]
      exact hin
  | .alternation es, next, stop, ar, ar', id, h, hg, hs => by
    unfold lower at h
    obtain ⟨⟨ids, ar1⟩, hl, h⟩ := map_eq_ok h
    obtain ⟨rfl, rfl⟩ := Prod.mk.inj h
    exact visited_add hg hs (lowerBranches_size hl)
      (lowerBranches_visited hl (hg.of_keeps (keeps_add _ _)))
  | .negation e, next, stop, ar, ar', id, h, hg, hs
  | .repetition e q, next, stop, ar, ar', id, h, hg, hs => by
    unfold lower at h
    obtain ⟨⟨body, ar1⟩, hl, h⟩ := map_eq_ok h
    obtain ⟨rfl, rfl⟩ := Prod.mk.inj h
    -- nothing comes after a body
    have hin := lower_visited hl (hg.of_keeps (keeps_add _ _)) (Option.some_ne_none body)
    refine visited_add hg hs (lower_size hl).1 ?_
    rw [Node.parts, List.flatMap_singleton]
    rw [visitedFrom, List.append_nil] at hin
    exact hin

theorem lowerAll_visited : ∀ {es : List Element} {exit : Option Nat} {ar ar' : Arena}
    {head : Option Nat}, lowerAll es exit ar = .ok (head, ar') → Includes g ar' →
      (g.visitedFrom exit (head.or exit)).Perm (List.range' ar.nodes.size (Element.sizeAll es))
  | [], exit, ar, ar', head, h, hg => by
    unfold lowerAll at h
    obtain ⟨rfl, rfl⟩ := Prod.mk.inj (Except.ok.inj h)
    exact .of_eq (visitedFrom_self exit)
  | e :: es, exit, ar, ar', head, h, hg => by
    have hall := (lowerAll_lowered h).2.1 hg
    unfold lowerAll at h
    split at h
    · cases h
    · rename_i next ar1 hl
      obtain ⟨⟨id, ar2⟩, hl', h⟩ := map_eq_ok h
      obtain ⟨rfl, rfl⟩ := Prod.mk.inj h
      have hes := lowerAll_visited hl (hg.of_keeps (lower_lowered hl').1)
      have he := lower_visited hl' hg (LoweredAll.ne_exit (List.cons_ne_nil e es) hall)
      rw [Element.sizeAll, Nat.add_comm, ← List.range'_append_1, ← lowerAll_size hl]
      exact (he.trans (hes.append_left _)).trans List.perm_append_comm

theorem lowerBranches_visited : ∀ {es : List Element} {exit : Option Nat} {ar ar' : Arena}
    {ids : List Nat}, lowerBranches es exit ar = .ok (ids, ar') → Includes g ar' →
      (ids.flatMap (g.visited exit)).Perm (List.range' ar.nodes.size (Element.sizeAll es))
  | [], exit, ar, ar', ids, h, hg => by
    unfold lowerBranches at h
    obtain ⟨rfl, rfl⟩ := Prod.mk.inj (Except.ok.inj h)
    exact .refl _
  | e :: es, exit, ar, ar', ids, h, hg => by
    unfold lowerBranches at h
    split at h
    · cases h
    · rename_i id ar1 hl
      obtain ⟨⟨ids', ar2⟩, hl', h⟩ := map_eq_ok h
      obtain ⟨rfl, rfl⟩ := Prod.mk.inj h
      have hg1 := hg.of_keeps (lowerBranches_lowered hl').1
      have he := lower_visited hl hg1 ((lower_lowered hl).2 hg1).ne_next
      have hes := lowerBranches_visited hl' hg
      rw [visitedFrom_self, List.append_nil] at he
      rw [List.flatMap_cons, Element.sizeAll, ← List.range'_append_1, ← (lower_size hl).1]
      exact he.append hes

end

/-- The node of a place is of the kind of the element there, and the nodes that are visited from it
up to what comes after it are those in the element, each once. -/
def Visits (g : Graph) (id : Nat) (p : Place) : Prop :=
  ∃ n, g.node? id = some n ∧ n.IsOf p.element ∧
    (g.visited n.next id).Perm (List.range' (id + 1 - p.element.size) p.element.size)

theorem visits_of_lower {e : Element} {next : Option Nat} {ar ar' : Arena} {id : Nat}
    {address : List Nat} {after : List Element} (h : lower e next ar = .ok (id, ar'))
    (hg : Includes g ar') : g.Visits id ⟨address, e, after⟩ := by
  have he := (lower_lowered h).2 hg
  obtain ⟨n, hn, hnext, hof⟩ := he.exists_node
  have hv := lower_visited h hg he.ne_next
  have hid : id + 1 - e.size = ar.nodes.size := by
    have := lower_size h
    omega
  rw [visitedFrom_self, List.append_nil, ← hid, ← hnext] at hv
  exact ⟨n, hn, hof, hv⟩

/-- The places in an element are those in its parts, and its own. -/
theorem numbered_visits_concat {e : Element} {next : Option Nat} {ar ar' : Arena} {id : Nat}
    {address : List Nat} {after : List Element} {ps : List Place}
    (h : lower e next ar = .ok (id, ar')) (hg : Includes g ar')
    (hlen : e.size = ps.length + 1) (hps : Numbered g.Visits ar.nodes.size ps) :
    Numbered g.Visits ar.nodes.size (ps ++ [⟨address, e, after⟩]) := by
  have hid : ar.nodes.size + ps.length = id := by
    have := lower_size h
    omega
  rw [numbered_append, numbered_singleton, hid]
  exact ⟨hps, visits_of_lower h hg⟩

mutual

/-- **At each place in an element** the nodes that are made for what stands there are visited. -/
theorem lower_visits : ∀ {e : Element} {next : Option Nat} {ar ar' : Arena} {id : Nat}
    {address : List Nat} {after : List Element}, lower e next ar = .ok (id, ar') →
      Includes g ar' → Numbered g.Visits ar.nodes.size (e.places address after)
  | .token t, next, ar, ar', id, address, after, h, hg
  | .anchor s, next, ar, ar', id, address, after, h, hg =>
    @numbered_visits_concat _ g _ _ _ _ _ address after [] h hg rfl (List.forall_mem_nil _)
  | .group es, next, ar, ar', id, address, after, h, hg => by
    refine numbered_visits_concat h hg (congrArg (· + 1) (Element.length_placesAll ..).symm) ?_
    unfold lower at h
    split at h
    · cases h
    · cases h
    · rename_i head ar1 hl
      obtain ⟨rfl, rfl⟩ := Prod.mk.inj (Except.ok.inj h)
      exact lowerAll_visits hl (hg.of_keeps (keeps_add _ _))
  | .alternation es, next, ar, ar', id, address, after, h, hg => by
    refine numbered_visits_concat h hg (congrArg (· + 1) (Element.length_placesEach ..).symm) ?_
    unfold lower at h
    obtain ⟨⟨ids, ar1⟩, hl, h⟩ := map_eq_ok h
    obtain ⟨rfl, rfl⟩ := Prod.mk.inj h
    exact lowerBranches_visits hl (hg.of_keeps (keeps_add _ _))
  | .negation e, next, ar, ar', id, address, after, h, hg
  | .repetition e q, next, ar, ar', id, address, after, h, hg => by
    refine numbered_visits_concat h hg (congrArg (· + 1) (Element.length_places ..).symm) ?_
    unfold lower at h
    obtain ⟨⟨body, ar1⟩, hl, h⟩ := map_eq_ok h
    obtain ⟨rfl, rfl⟩ := Prod.mk.inj h
    exact lower_visits hl (hg.of_keeps (keeps_add _ _))

theorem lowerAll_visits : ∀ {es : List Element} {exit : Option Nat} {ar ar' : Arena}
    {head : Option Nat} {address : List Nat} {after : List Element} {i : Nat},
    lowerAll es exit ar = .ok (head, ar') → Includes g ar' →
      Numbered g.Visits ar.nodes.size (Element.placesAll address after i es)
  | [], _, _, _, _, _, _, _, _, _ => List.forall_mem_nil _
  | e :: es, exit, ar, ar', head, address, after, i, h, hg => by
    unfold lowerAll at h
    split at h
    · cases h
    · rename_i next ar1 hl
      obtain ⟨⟨id, ar2⟩, hl', h⟩ := map_eq_ok h
      obtain ⟨rfl, rfl⟩ := Prod.mk.inj h
      rw [Element.placesAll, numbered_append, Element.length_placesAll, ← lowerAll_size hl]
      exact ⟨lowerAll_visits hl (hg.of_keeps (lower_lowered hl').1), lower_visits hl' hg⟩

theorem lowerBranches_visits : ∀ {es : List Element} {exit : Option Nat} {ar ar' : Arena}
    {ids : List Nat} {address : List Nat} {after : List Element} {i : Nat},
    lowerBranches es exit ar = .ok (ids, ar') → Includes g ar' →
      Numbered g.Visits ar.nodes.size (Element.placesEach address after i es)
  | [], _, _, _, _, _, _, _, _, _ => List.forall_mem_nil _
  | e :: es, exit, ar, ar', ids, address, after, i, h, hg => by
    unfold lowerBranches at h
    split at h
    · cases h
    · rename_i id ar1 hl
      obtain ⟨⟨ids', ar2⟩, hl', h⟩ := map_eq_ok h
      obtain ⟨rfl, rfl⟩ := Prod.mk.inj h
      rw [Element.placesEach, numbered_append, Element.length_places, ← (lower_size hl).1]
      exact ⟨lower_visits hl (hg.of_keeps (lowerBranches_lowered hl').1),
        lowerBranches_visits hl' hg⟩

end

/-- All nodes but the entry are visited to write the graph of a pattern, each once. -/
theorem visitedNodes_perm {es : List Element} (h : ofElements es = .ok g) :
    g.visitedNodes.Perm (List.range g.entry) := by
  have hl := ofElements_eq_ok_iff.mp h
  have hv := lower_visited hl (fun _ _ h => h) (Option.some_ne_none g.entry)
  have hentry : Element.sizeAll es = g.entry := by
    have := size_ofElements h
    omega
  cases lowered_ofElements h with
  | @group _ _ head _ _ _ hn =>
    rw [visited_eq (Option.some_ne_none _) hn, Node.next, visitedFrom, List.append_nil,
      List.append_nil, Element.size, List.range'_1_concat, Array.size_empty, Nat.zero_add, hentry,
      ← List.range_eq_range', Node.parts, List.flatMap_singleton] at hv
    rw [visitedNodes, hn]
    exact (hv.trans (List.perm_append_singleton _ _)).cons_inv

end Motif.Graph

namespace Motif.CompiledPattern

open Pattern

section

variable [RegexEngine]

/-- **The text of a compiled pattern** is the tree that it was made from, rendered. To write it, all
nodes but that of the whole pattern are visited, each once; from the node of an element up to what
comes after it these are the nodes that were made for the element. -/
theorem text_eq_rendered {es : List Element} {source : String} {options : Options}
    {c : CompiledPattern} (h : ofElements es source options = .ok c) :
    c.text = Graph.spaced (Element.renderedAll es) ∧
      c.graph.visitedNodes.Perm (List.range c.graph.entry) ∧
      ∀ id p, (places es)[id]? = some p → c.graph.Visits id p := by
  obtain ⟨g, hg, rfl⟩ := Graph.map_eq_ok h
  refine ⟨?_, Graph.visitedNodes_perm hg, fun id p hp => ?_⟩
  · rw [text, Graph.text_ofElements hg, Element.renderedAll_eq_texts_normal]
  · have hv : Graph.Numbered g.Visits 0 (places es) :=
      Graph.lower_visits (Graph.ofElements_eq_ok_iff.mp hg) fun _ _ h => h
    exact hv (p, id) (List.mk_mem_zipIdx_iff_getElem?.mpr hp)

end

/-- Branches that are groups with a common continuation, no branches at all, a repetition of a
repetition, bounds that no count can meet, and a property whose name cannot be written. -/
theorem text_eq_rendered_branches :
    let es : List Element := [.alternation [.group [.token ⟨some .word, []⟩, .anchor .finish],
        .repetition (.repetition (.alternation []) (.range ⟨0, some 0⟩)) (.range ⟨3, some 1⟩)],
      .negation (.token ⟨none, [⟨"a =", .text "it's"⟩]⟩)]
    ∃ c, ofElements es "" {} = .ok c ∧
      c.text = "[(word $) []\x7b0\x7d\x7b3,1\x7d] !any,a =='it\\'s'" ∧
      c.graph.visitedNodes.Perm (List.range 9) := by
  intro es
  have hc : ofElements es "" {} = .ok _ := rfl
  obtain ⟨htext, hvisited, -⟩ := text_eq_rendered hc
  exact ⟨_, hc, htext.trans rfl, hvisited⟩

end Motif.CompiledPattern
