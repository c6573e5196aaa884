import Mathlib
import Motif.Proofs.Graph.Shape
import Motif.Proofs.Language.Graph
import Motif.Proofs.Match.Walk
import Motif.Proofs.Notation.Sound
import Motif.Regex.Standard

/-!
# Where scopes may end (specification E4)

A node is flagged if its scope may end from there without a symbol. That is said in two more ways. A
walk that tries the node comes to a repetition that may be skipped and that nothing comes after. And
what there is of the scope from the place of the node on accepts the empty word, in a pattern that
can be written down.

* `isNullable_iff_passes`: the flags are what a walk finds.
* `meaning_eq_rest`: a node means what there is of its scope from its place on.
* **`CompiledPattern.isNullable_agrees`**: the three say the same.
-/

namespace Motif.Graph

open Pattern

variable [RegexEngine] {g : Graph} {a b id : Nat}

/-! ## Walks to the end of a scope -/

/-- A walk that tries one node leaves the other to be tried with the same symbol. -/
def Passes (g : Graph) (a b : Nat) : Prop :=
  ∃ n, g.node? a = some n ∧ b ∈ n.pushed g

/-- A node is a repetition that may be skipped and that nothing comes after. -/
def EndsScope (g : Graph) (id : Nat) : Prop :=
  ∃ body span, g.node? id = some (.repetition body span none) ∧
    (span.min = 0 ∨ g.isNullable body = true)

theorem EndsScope.isNullable (h : g.EndsScope id) : g.isNullable id = true := by
  obtain ⟨body, span, hn, hskip⟩ := h
  rw [isNullable_eq hn, Node.isNullable]
  simpa using hskip

/-- Flags go back along the moves of a walk. -/
theorem Passes.isNullable (h : g.Passes a b) (hb : g.isNullable b = true) :
    g.isNullable a = true := by
  obtain ⟨n, hn, hpushed⟩ := h
  rw [isNullable_eq hn]
  cases n with
  | atom a next | anchor s next | negation body next => exact absurd hpushed List.not_mem_nil
  | sequence head exit =>
    obtain rfl := List.mem_singleton.mp hpushed
    exact hb
  | alternation branches exit => exact List.any_eq_true.mpr ⟨b, hpushed, hb⟩
  | repetition body span next =>
    rw [Node.pushed] at hpushed
    split at hpushed
    · rename_i hskip
      obtain rfl : next = some b := by simpa using hpushed
      rw [Node.isNullable, hskip]
      exact hb
    · exact absurd hpushed List.not_mem_nil

/-- A flagged node ends its scope itself, or a walk leaves another flagged node to be tried. -/
theorem endsScope_or_passes (h : g.isNullable id = true) :
    g.EndsScope id ∨ ∃ b, g.Passes id b ∧ g.isNullable b = true := by
  cases hn : g.node? id with
  | none =>
    rw [isNullable_of_node?_none hn] at h
    cases h
  | some n =>
    rw [isNullable_eq hn] at h
    cases n with
    | atom a next | anchor s next | negation body next => cases h
    | sequence head exit => exact .inr ⟨head, ⟨_, hn, List.mem_singleton.mpr rfl⟩, h⟩
    | alternation branches exit =>
      obtain ⟨b, hb, hflag⟩ := List.any_eq_true.mp h
      exact .inr ⟨b, ⟨_, hn, hb⟩, hflag⟩
    | repetition body span next =>
      obtain ⟨hskip, hnext⟩ := Bool.and_eq_true_iff.mp h
      cases next with
      | none => exact .inl ⟨body, span, hn, by simpa using hskip⟩
      | some b =>
        refine .inr ⟨b, ⟨_, hn, ?_⟩, hnext⟩
        rw [Node.pushed, if_pos hskip]
        exact List.mem_singleton.mpr rfl

/-- **The flags are what a walk finds**: a node is flagged iff there is a way from it to a
repetition that may be skipped and that nothing comes after, along the moves of a walk. -/
theorem isNullable_iff_passes : g.isNullable id = true ↔
    ∃ last, Relation.ReflTransGen g.Passes id last ∧ g.EndsScope last := by
  constructor
  · intro h
    induction id using Nat.strong_induction_on with
    | _ id ih =>
      rcases endsScope_or_passes h with hlast | ⟨b, hpass, hb⟩
      · exact ⟨id, .refl, hlast⟩
      · obtain ⟨n, hn, hpushed⟩ := hpass
        obtain ⟨last, hway, hlast⟩ := ih b (link_lt hn ((n.pushed_sublist g).subset hpushed)) hb
        exact ⟨last, .head ⟨n, hn, hpushed⟩ hway, hlast⟩
  · rintro ⟨last, hway, hlast⟩
    induction hway using Relation.ReflTransGen.head_induction_on with
    | refl => exact hlast.isNullable
    | head hpass _ ih => exact hpass.isNullable ih

end Motif.Graph

namespace Motif.Pattern.Element

/-! ## Well-formed places -/

/-- What can be written down at some depth can be written down further out. -/
theorem WellFormed.mono {depth depth' : Nat} {e : Element} (h : e.WellFormed depth)
    (hle : depth' ≤ depth) : e.WellFormed depth' := by
  induction h generalizing depth' with
  | token ht => exact .token ht
  | anchor s => exact .anchor s
  | group hd hes _ ih =>
    exact .group (Nat.lt_of_le_of_lt hle hd) hes fun e he => ih e he (Nat.succ_le_succ hle)
  | alternation hd hes _ ih =>
    exact .alternation (Nat.lt_of_le_of_lt hle hd) hes fun e he => ih e he (Nat.succ_le_succ hle)
  | negation hd hrep _ ih =>
    exact .negation (Nat.lt_of_le_of_lt hle hd) hrep (ih (Nat.succ_le_succ hle))
  | repetition hrep _ hq ih => exact .repetition hrep (ih hle) hq

/-- At a place in a well-formed tree there is nothing but well-formed elements in the rest of the
scope. -/
def RestWellFormed (ps : List Place) : Prop :=
  ∀ p ∈ ps, ∀ e ∈ p.rest, e.WellFormed 0

theorem restWellFormed_concat {ps : List Place} {address : List Nat} {e : Element}
    {after : List Element} (hps : RestWellFormed ps) (he : e.WellFormed 0)
    (hafter : ∀ e ∈ after, e.WellFormed 0) : RestWellFormed (ps ++ [⟨address, e, after⟩]) := by
  rw [RestWellFormed, List.forall_mem_append, List.forall_mem_singleton]
  exact ⟨hps, List.forall_mem_cons.mpr ⟨he, hafter⟩⟩

mutual

theorem restWellFormed_places : ∀ {e : Element} {address : List Nat} {after : List Element},
    e.WellFormed 0 → (∀ e ∈ after, e.WellFormed 0) → RestWellFormed (places address after e)
  | token t, address, after, he, hafter => restWellFormed_concat (List.forall_mem_nil _) he hafter
  | anchor s, address, after, he, hafter => restWellFormed_concat (List.forall_mem_nil _) he hafter
  | group es, address, after, he, hafter => by
    refine restWellFormed_concat (restWellFormed_placesAll ?_ hafter) he hafter
    cases he with
    | group _ _ hes => exact fun e he => (hes e he).mono (Nat.zero_le _)
  | alternation es, address, after, he, hafter => by
    refine restWellFormed_concat (restWellFormed_placesEach ?_ hafter) he hafter
    cases he with
    | alternation _ _ hes => exact fun e he => (hes e he).mono (Nat.zero_le _)
  | negation e, address, after, he, hafter => by
    refine restWellFormed_concat (restWellFormed_places ?_ (List.forall_mem_nil _)) he hafter
    cases he with
    | negation _ _ he => exact he.mono (Nat.zero_le _)
  | repetition e q, address, after, he, hafter => by
    refine restWellFormed_concat (restWellFormed_places ?_ (List.forall_mem_nil _)) he hafter
    cases he with
    | repetition _ he _ => exact he

theorem restWellFormed_placesAll : ∀ {es : List Element} {address : List Nat}
    {after : List Element} {i : Nat}, (∀ e ∈ es, e.WellFormed 0) →
      (∀ e ∈ after, e.WellFormed 0) → RestWellFormed (placesAll address after i es)
  | [], _, _, _, _, _ => List.forall_mem_nil _
  | e :: es, address, after, i, hes, hafter => by
    obtain ⟨he, hes⟩ := List.forall_mem_cons.mp hes
    rw [placesAll, RestWellFormed, List.forall_mem_append]
    refine ⟨restWellFormed_placesAll hes hafter, restWellFormed_places he ?_⟩
    exact List.forall_mem_append.mpr ⟨hes, hafter⟩

theorem restWellFormed_placesEach : ∀ {es : List Element} {address : List Nat}
    {after : List Element} {i : Nat}, (∀ e ∈ es, e.WellFormed 0) →
      (∀ e ∈ after, e.WellFormed 0) → RestWellFormed (placesEach address after i es)
  | [], _, _, _, _, _ => List.forall_mem_nil _
  | e :: es, address, after, i, hes, hafter => by
    obtain ⟨he, hes⟩ := List.forall_mem_cons.mp hes
    rw [placesEach, RestWellFormed, List.forall_mem_append]
    exact ⟨restWellFormed_places he hafter, restWellFormed_placesEach hes hafter⟩

end

end Motif.Pattern.Element

namespace Motif.Graph

open Pattern

/-! ## What there is of a scope -/

variable [RegexEngine] {g : Graph}

/-- **A node means what there is of its scope** from its place on. -/
theorem meaning_eq_rest {es : List Element} (h : ofElements es = .ok g)
    (hes : ∀ e ∈ es, e.WellFormed 0) {id : Nat} {p : Place} (hp : (places es)[id]? = some p) :
    g.meaning id = Element.meaningAll p.rest := by
  have hrest := (shows_ofElements h hp).lowered
  rcases List.mem_append.mp (List.mem_of_getElem? hp) with hmem | hmem
  · have hwf := Element.restWellFormed_placesAll hes (List.forall_mem_nil _) p hmem
    exact (hrest.meaning_eq hwf).trans (mul_one _)
  · -- the pattern as a whole may be nested as deeply as its elements, and no deeper
    obtain rfl := List.mem_singleton.mp hmem
    cases hrest with
    | cons he hnil =>
      cases hnil with
      | nil =>
        cases he with
        | group hall _ hn =>
          rw [Graph.meaning_eq hn, Node.meaning]
          exact hall.meaning_eq hes

end Motif.Graph

namespace Motif.CompiledPattern

open Pattern

section

variable [RegexEngine]

/-- **Flags, walks and scopes agree.** A node is flagged iff a walk from it comes to a repetition
that may be skipped and that nothing comes after; and if the pattern was read from a text, iff what
there is of the scope from the place of the node on accepts the empty word. -/
theorem isNullable_agrees {es : List Element} {source : String} {options : Options}
    {c : CompiledPattern} (h : ofElements es source options = .ok c) :
    (∀ id < c.graph.nodes.size, c.graph.isNullable id = true ↔
      ∃ last, Relation.ReflTransGen c.graph.Passes id last ∧ c.graph.EndsScope last) ∧
    ∀ text, parse text = .ok es → ∀ id < c.graph.nodes.size,
      ∃ p, (places es)[id]? = some p ∧
        (c.graph.isNullable id = true ↔ [] ∈ (Element.meaningAll p.rest).accepted) := by
  obtain ⟨g, hg, rfl⟩ := Graph.map_eq_ok h
  constructor
  · exact fun id _ => Graph.isNullable_iff_passes
  · intro text hparse id hid
    obtain ⟨p, hp, -⟩ := Graph.exists_shows hg hid
    obtain ⟨-, hes⟩ := parse_wellFormed hparse
    refine ⟨p, hp, ?_⟩
    rw [Graph.isNullable_iff, Graph.meaning_eq_rest hg hes hp]

end

/-- The scope of a text with an optional tail may end after the text. -/
theorem isNullable_agrees_tail :
    let literal : String → Element := fun s => .token ⟨none, [⟨"text", .text s⟩]⟩
    let es := [literal "a", .repetition (literal "b") .optional,
      .repetition (.group [.repetition (literal "c") .star]) .plus]
    ∃ c, ofElements es "" {} = .ok c ∧ parse "'a' 'b'? ('c'*)+" = .ok es ∧
      (∀ id < c.graph.nodes.size, c.graph.isNullable id = true ↔
        ∃ last, Relation.ReflTransGen c.graph.Passes id last ∧ c.graph.EndsScope last) ∧
      ∀ id < c.graph.nodes.size, ∃ p, (places es)[id]? = some p ∧
        (c.graph.isNullable id = true ↔ [] ∈ (Element.meaningAll p.rest).accepted) := by
  intro literal es
  have hparse : parse "'a' 'b'? ('c'*)+" = .ok es := by cbv
  obtain ⟨c, h⟩ : ∃ c, ofElements es "" {} = .ok c := ⟨_, rfl⟩
  exact ⟨c, h, hparse, (isNullable_agrees h).1, (isNullable_agrees h).2 _ hparse⟩

end Motif.CompiledPattern
