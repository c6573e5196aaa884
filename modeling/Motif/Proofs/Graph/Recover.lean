import Motif.Proofs.Graph.Shape
import Motif.Proofs.Notation.Print
import Motif.Regex.Standard

/-!
# Trees from graphs (specification §9)

A graph says which tree it was made from, as far as a graph depends on it: what is lost is where
regular expressions stood and how quantifiers were written. A node stands for one element only,
since its kind says what the element is, and the nodes that it holds stand for what the element
holds; the elements of a sequence end where what comes after the sequence begins.

* `rewrite_of_compile`: an atom says which test it was compiled from.
* `Lowered.spanned_eq`: a node says which element it stands for.
* **`CompiledPattern.nodes_eq_iff`**: two patterns have the same nodes iff they are the same.
-/

namespace Motif.Pattern

section

variable [RegexEngine]

/-! ## Tests from atoms -/

/-- What is expected by a compiled condition. -/
def ValueTest.expected : ValueTest → Expected
  | exact s => .text s
  | regex r => .regex ⟨r.source, r.flags, 0⟩
  | present => .present

/-- The test that an atom stands for. -/
def Atom.test (a : Atom) : TokenTest :=
  ⟨a.kind, a.properties.map fun p => ⟨p.name, p.value.expected⟩⟩

theorem rewrite_of_compile_value {v : Expected} {w : ValueTest} (h : ValueTest.compile v = .ok w) :
    v.rewrite RegexLiteral.unindexed = w.expected := by
  rcases ValueTest.compile_eq_ok h with ⟨s, rfl, rfl⟩ | ⟨l, r, rfl, hs, hf, rfl⟩ | ⟨rfl, rfl⟩
  · rfl
  · rw [ValueTest.expected, hs, hf]
    rfl
  · rfl

theorem rewrite_of_compile_all {cs : List Constraint} {ps : List PropertyTest}
    (h : List.Forall₂ (fun c p => PropertyTest.compile c = .ok p) cs ps) :
    cs.map (·.rewrite RegexLiteral.unindexed) = ps.map fun p => ⟨p.name, p.value.expected⟩ := by
  induction h with
  | nil => rfl
  | cons hc _ ih =>
    obtain ⟨v, hv, rfl⟩ := Graph.map_eq_ok hc
    rw [List.map_cons, List.map_cons, ih, Constraint.rewrite, rewrite_of_compile_value hv]

/-- **An atom says which test it was compiled from**, but for where its expressions stood. -/
theorem rewrite_of_compile {t : TokenTest} {a : Atom} (h : Atom.compile t = .ok a) :
    t.rewrite RegexLiteral.unindexed = a.test := by
  obtain ⟨hkind, hps⟩ := Atom.compile_eq_ok h
  rw [Atom.test, hkind, ← rewrite_of_compile_all hps]
  rfl

end

/-! ## What a graph keeps of a tree -/

namespace Element

/-- An element with spans for quantifiers, and without the places where its expressions stood. -/
def spanned (e : Element) : Element :=
  e.rewrite RegexLiteral.unindexed fun q => .range q.span

/-- Elements with spans for quantifiers, and without the places where their expressions stood. -/
def spannedAll (es : List Element) : List Element :=
  rewriteAll RegexLiteral.unindexed (fun q => .range q.span) es

end Element

end Motif.Pattern

namespace Motif.Graph

open Pattern Element

theorem preserving_spanned : Preserving RegexLiteral.unindexed fun q => .range q.span :=
  ⟨fun _ => rfl, fun _ => rfl, fun _ => rfl⟩

variable [RegexEngine] {g : Graph}

/-- Elements do not begin where what comes after them does. -/
theorem not_loweredAll_self {e : Element} {es : List Element} {exit : Option Nat} :
    ¬ LoweredAll g (e :: es) exit exit := by
  intro h
  cases exit with
  | none => cases h
  | some id => exact h.ne_exit (List.cons_ne_nil e es) rfl

mutual

/-- **A node says which element it stands for.** -/
theorem Lowered.spanned_eq : ∀ {a b : Element} {id : Nat} {next next' : Option Nat},
    Lowered g a id next → Lowered g b id next' → a.spanned = b.spanned
  | .token t, b, id, next, next', ha, hb => by
    cases ha with
    | token hc hn =>
      cases hb with
      | token hc' hn' =>
        cases hn.symm.trans hn'
        exact congrArg Element.token ((rewrite_of_compile hc).trans (rewrite_of_compile hc').symm)
      | anchor hn' | group _ _ hn' | alternation _ hn' | negation _ hn' | repetition _ hn' =>
        cases hn.symm.trans hn'
  | .anchor s, b, id, next, next', ha, hb => by
    cases ha with
    | anchor hn =>
      cases hb with
      | anchor hn' =>
        cases hn.symm.trans hn'
        rfl
      | token _ hn' | group _ _ hn' | alternation _ hn' | negation _ hn' | repetition _ hn' =>
        cases hn.symm.trans hn'
  | .group es, b, id, next, next', ha, hb => by
    cases ha with
    | group hes _ hn =>
      cases hb with
      | group hes' _ hn' =>
        cases hn.symm.trans hn'
        exact congrArg Element.group (hes.spanned_eq hes')
      | token _ hn' | anchor hn' | alternation _ hn' | negation _ hn' | repetition _ hn' =>
        cases hn.symm.trans hn'
  | .alternation es, b, id, next, next', ha, hb => by
    cases ha with
    | alternation hes hn =>
      cases hb with
      | alternation hes' hn' =>
        cases hn.symm.trans hn'
        exact congrArg Element.alternation (hes.spanned_eq hes')
      | token _ hn' | anchor hn' | group _ _ hn' | negation _ hn' | repetition _ hn' =>
        cases hn.symm.trans hn'
  | .negation e, b, id, next, next', ha, hb => by
    cases ha with
    | negation he hn =>
      cases hb with
      | negation he' hn' =>
        cases hn.symm.trans hn'
        exact congrArg Element.negation (he.spanned_eq he')
      | token _ hn' | anchor hn' | group _ _ hn' | alternation _ hn' | repetition _ hn' =>
        cases hn.symm.trans hn'
  | .repetition e q, b, id, next, next', ha, hb => by
    cases ha with
    | repetition he hn =>
      cases hb with
      | @repetition e' q' _ _ _ he' hn' =>
        obtain ⟨hbody, hspan, -⟩ := Node.repetition.inj (Option.some.inj (hn.symm.trans hn'))
        subst hbody
        show Element.repetition e.spanned (.range q.span) = .repetition e'.spanned (.range q'.span)
        rw [he.spanned_eq he', hspan]
      | token _ hn' | anchor hn' | group _ _ hn' | alternation _ hn' | negation _ hn' =>
        cases hn.symm.trans hn'

/-- Elements one after the other are known from where they begin and what comes after them: that
cannot come before, as its number is smaller. -/
theorem LoweredAll.spanned_eq : ∀ {as bs : List Element} {head exit : Option Nat},
    LoweredAll g as head exit → LoweredAll g bs head exit → spannedAll as = spannedAll bs
  | [], [], _, _, _, _ => rfl
  | [], b :: bs, head, exit, ha, hb => by
    cases ha with
    | nil => exact absurd hb not_loweredAll_self
  | a :: as, [], head, exit, ha, hb => by
    cases hb with
    | nil => exact absurd ha not_loweredAll_self
  | a :: as, b :: bs, head, exit, ha, hb => by
    cases ha with
    | cons ha has =>
      cases hb with
      | cons hb hbs =>
        -- what comes after the first element is said by its node
        have hnext := ha.next?_eq
        rw [hb.next?_eq] at hnext
        obtain rfl := Option.some.inj hnext
        exact List.cons_eq_cons.mpr ⟨ha.spanned_eq hb, has.spanned_eq hbs⟩

theorem LoweredEach.spanned_eq : ∀ {as bs : List Element} {ids : List Nat}
    {exit exit' : Option Nat}, LoweredEach g as ids exit → LoweredEach g bs ids exit' →
      spannedAll as = spannedAll bs
  | [], bs, ids, exit, exit', ha, hb => by
    cases ha with
    | nil =>
      cases hb with
      | nil => rfl
  | a :: as, bs, ids, exit, exit', ha, hb => by
    cases ha with
    | cons ha has =>
      cases hb with
      | cons hb hbs => exact List.cons_eq_cons.mpr ⟨ha.spanned_eq hb, has.spanned_eq hbs⟩

end

/-- A pattern with spans for quantifiers has the same graph. -/
theorem ofElements_spanned {es : List Element} :
    ofElements (spannedAll es) = .ok g ↔ ofElements es = .ok g := by
  rw [ofElements_eq_ok_iff, ofElements_eq_ok_iff]
  exact (agree_lower preserving_spanned (.group es) none {}).eq_ok_iff _

/-- Patterns have the same nodes only if they have the same graph. -/
theorem eq_of_nodes_eq {as bs : List Element} {g' : Graph} (ha : ofElements as = .ok g)
    (hb : ofElements bs = .ok g') (h : g.nodes = g'.nodes) : g = g' := by
  have hs := (size_ofElements ha).2
  have hs' := (size_ofElements hb).2
  refine ext h ?_
  rw [h] at hs
  omega

end Motif.Graph

namespace Motif.CompiledPattern

open Pattern

section

variable [RegexEngine]

/-- **Two patterns have the same nodes iff they are the same** but for where their expressions stood
and how their quantifiers were written. -/
theorem nodes_eq_iff {as bs : List Element} {source source' : String} {options options' : Options}
    {a b : CompiledPattern} (ha : ofElements as source options = .ok a)
    (hb : ofElements bs source' options' = .ok b) :
    a.graph.nodes = b.graph.nodes ↔ Element.spannedAll as = Element.spannedAll bs := by
  obtain ⟨g, hg, rfl⟩ := Graph.map_eq_ok ha
  obtain ⟨g', hg', rfl⟩ := Graph.map_eq_ok hb
  constructor
  · intro h
    obtain rfl := Graph.eq_of_nodes_eq hg hg' h
    have hspanned := (Graph.lowered_ofElements hg).spanned_eq (Graph.lowered_ofElements hg')
    exact Element.group.inj hspanned
  · intro h
    have hg'' := Graph.ofElements_spanned.mpr hg
    rw [h, Graph.ofElements_spanned] at hg''
    obtain rfl := Except.ok.inj (hg'.symm.trans hg'')
    rfl

end

/-- Two ways to write an optional group. -/
theorem nodes_eq_iff_optional :
    let as : List Element := [.repetition (.group [.token ⟨none, []⟩, .alternation []]) .optional]
    let bs : List Element :=
      [.repetition (.group [.token ⟨none, []⟩, .alternation []]) (.range ⟨0, some 1⟩)]
    ∃ a b, ofElements as "" {} = .ok a ∧ ofElements bs "" {} = .ok b ∧
      (a.graph.nodes = b.graph.nodes ↔ Element.spannedAll as = Element.spannedAll bs) :=
  ⟨_, _, rfl, rfl, nodes_eq_iff rfl rfl⟩

end Motif.CompiledPattern
