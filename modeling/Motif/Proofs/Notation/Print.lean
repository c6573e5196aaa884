import Motif.Compile
import Motif.Proofs.Graph.Lowered
import Motif.Proofs.Pattern.Atom

/-!
# Trees as text

A tree is written in the notation of patterns as it stands. The graph of a tree is written like the
tree in which every quantifier has its shortest form: what comes after a node is not needed for
that, as a chain ends where its scope does.

* **`text_ofElements`**: the text of the graph of a pattern is the text of the pattern in its normal
  form.
* `lower_rewrite`: graphs know neither where an expression stood nor how a quantifier was written.
-/

namespace Motif.Pattern

/-! ## Quantifiers -/

/-- A span in braces. -/
def Span.inBraces (s : Span) : String :=
  match s.max with
  | some max =>
    if s.min = max then "\x7b" ++ decimal s.min ++ "\x7d"
    else if s.min = 0 then "\x7b," ++ decimal max ++ "\x7d"
    else "\x7b" ++ decimal s.min ++ "," ++ decimal max ++ "\x7d"
  | none => "\x7b" ++ decimal s.min ++ ",\x7d"

/-- A quantifier as it was written. -/
def Quantifier.text : Quantifier → String
  | optional => "?"
  | star => "*"
  | plus => "+"
  | range s => s.inBraces

/-- The shortest quantifier that stands for a span. -/
def Span.quantifier (s : Span) : Quantifier :=
  if s = ⟨0, some 1⟩ then .optional
  else if s = ⟨0, none⟩ then .star
  else if s = ⟨1, none⟩ then .plus
  else .range s

@[simp] theorem Span.span_quantifier (s : Span) : s.quantifier.span = s := by
  unfold Span.quantifier
  split
  · rename_i h
    exact h.symm
  · split
    · rename_i h
      exact h.symm
    · split
      · rename_i h
        exact h.symm
      · rfl

/-- The text of a span is that of its shortest quantifier. -/
theorem Span.text_quantifier (s : Span) : s.quantifier.text = s.text := by
  unfold Span.quantifier
  split
  · rename_i h
    rw [h]
    rfl
  · split
    · rename_i h
      rw [h]
      rfl
    · split
      · rename_i h
        rw [h]
        rfl
      · -- none of the short forms applies
        obtain ⟨min, max⟩ := s
        show Span.inBraces _ = _
        unfold Span.text Span.inBraces
        cases max with
        | none => split <;> simp_all
        | some m => split <;> simp_all

/-! ## Elements -/

/-- What follows the name of a property. -/
def Expected.written : Expected → String
  | text s => "='" ++ .ofList (s.toList.flatMap quotedChar) ++ "'"
  | regex r => "=/" ++ .ofList (r.source.toList.flatMap slashedChar) ++ "/" ++ r.flags
  | present => ""

/-- A constraint as it is written after a test. -/
def Constraint.text (c : Constraint) : String :=
  "," ++ c.name ++ c.value.written

/-- A test of a token, by the keyword of the kind. -/
def TokenTest.text (t : TokenTest) : String :=
  kindText t.kind ++ String.join (t.constraints.map (·.text))

namespace Element

mutual

/-- An element in the notation of patterns. -/
def text : Element → String
  | token t => t.text
  | anchor s => Graph.anchorText s
  | group es => "(" ++ Graph.spaced (texts es) ++ ")"
  | alternation es => "[" ++ Graph.spaced (texts es) ++ "]"
  | negation e => "!" ++ e.text
  | repetition e q => e.text ++ q.text

/-- Elements in the notation of patterns. -/
def texts : List Element → List String
  | [] => []
  | e :: es => e.text :: texts es

end

end Element

/-! ## Trees with other literals and quantifiers -/

/-- An expression without the place where it was written. -/
def RegexLiteral.unindexed (r : RegexLiteral) : RegexLiteral :=
  { r with index := 0 }

/-- An expected value with its expression replaced. -/
def Expected.rewrite (f : RegexLiteral → RegexLiteral) : Expected → Expected
  | regex r => regex (f r)
  | text s => text s
  | present => present

/-- A constraint with its expression replaced. -/
def Constraint.rewrite (f : RegexLiteral → RegexLiteral) (c : Constraint) : Constraint :=
  { c with value := c.value.rewrite f }

/-- A test with its expressions replaced. -/
def TokenTest.rewrite (f : RegexLiteral → RegexLiteral) (t : TokenTest) : TokenTest :=
  { t with constraints := t.constraints.map (·.rewrite f) }

theorem TokenTest.rewrite_id (t : TokenTest) : t.rewrite id = t := by
  have hc (c : Constraint) : c.rewrite id = c := by
    obtain ⟨name, value⟩ := c
    cases value <;> rfl
  simp [TokenTest.rewrite, hc]

namespace Element

section

variable (f : RegexLiteral → RegexLiteral) (h : Quantifier → Quantifier)

mutual

/-- An element with its expressions and quantifiers replaced. -/
def rewrite : Element → Element
  | token t => token (t.rewrite f)
  | anchor s => anchor s
  | group es => group (rewriteAll es)
  | alternation es => alternation (rewriteAll es)
  | negation e => negation e.rewrite
  | repetition e q => repetition e.rewrite (h q)

/-- Elements with their expressions and quantifiers replaced. -/
def rewriteAll : List Element → List Element
  | [] => []
  | e :: es => e.rewrite :: rewriteAll es

end

theorem rewriteAll_eq_map (es : List Element) : rewriteAll f h es = es.map (rewrite f h) := by
  induction es with
  | nil => rfl
  | cons e es ih => rw [rewriteAll, ih, List.map_cons]

end

/-- An element without the places where its expressions were written. -/
def unindexed (e : Element) : Element :=
  e.rewrite RegexLiteral.unindexed id

/-- Elements without the places where their expressions were written. -/
def unindexedAll (es : List Element) : List Element :=
  rewriteAll RegexLiteral.unindexed id es

/-- An element whose quantifiers have their shortest form. -/
def normal (e : Element) : Element :=
  e.rewrite id fun q => q.span.quantifier

/-- Elements whose quantifiers have their shortest form. -/
def normalAll (es : List Element) : List Element :=
  rewriteAll id (fun q => q.span.quantifier) es

end Element

end Motif.Pattern

namespace Motif.Graph

open Pattern

theorem spaced_singleton (s : String) : spaced [s] = s :=
  String.intercalate_singleton

/-! ## Lowering trees with other literals and quantifiers -/

/-- Two results that are the same, or two faults. -/
inductive Agree {α : Type} : Except Fault α → Except Fault α → Prop
  | ok (a : α) : Agree (.ok a) (.ok a)
  | error (e e' : Fault) : Agree (.error e) (.error e')

namespace Agree

variable {α β : Type} {r r' : Except Fault α}

theorem refl (r : Except Fault α) : Agree r r := by
  cases r with
  | ok a => exact .ok a
  | error e => exact .error e e

theorem map (h : Agree r r') (f : α → β) : Agree (r.map f) (r'.map f) := by
  cases h with
  | ok a => exact .ok (f a)
  | error e e' => exact .error e e'

theorem bind (h : Agree r r') {f f' : α → Except Fault β} (hf : ∀ a, Agree (f a) (f' a)) :
    Agree (r >>= f) (r' >>= f') := by
  cases h with
  | ok a => exact hf a
  | error e e' => exact .error e e'

theorem eq_ok_iff (h : Agree r r') (a : α) : r = .ok a ↔ r' = .ok a := by
  cases h with
  | ok b => exact Iff.rfl
  | error e e' => simp

end Agree

/-- Replacements that keep what graphs are made of. -/
structure Preserving (f : RegexLiteral → RegexLiteral) (h : Quantifier → Quantifier) : Prop where
  source : ∀ r, (f r).source = r.source
  flags : ∀ r, (f r).flags = r.flags
  span : ∀ q, (h q).span = q.span

variable [RegexEngine] {f : RegexLiteral → RegexLiteral} {h : Quantifier → Quantifier}

theorem agree_compile_constraint (hp : Preserving f h) (c : Constraint) :
    Agree (PropertyTest.compile (c.rewrite f)) (PropertyTest.compile c) := by
  have hv : Agree (ValueTest.compile (c.value.rewrite f)) (ValueTest.compile c.value) := by
    cases c.value with
    | text s | present => exact .refl _
    | regex r =>
      show Agree (ValueTest.compile (.regex (f r))) _
      rw [ValueTest.compile, ValueTest.compile, hp.source, hp.flags]
      split
      · exact .refl _
      · exact .error _ _
  exact hv.map _

theorem agree_compile (hp : Preserving f h) (t : TokenTest) :
    Agree (Atom.compile (t.rewrite f)) (Atom.compile t) := by
  have hcs (cs : List Constraint) : Agree ((cs.map (·.rewrite f)).mapM PropertyTest.compile)
      (cs.mapM PropertyTest.compile) := by
    induction cs with
    | nil => exact .refl _
    | cons c cs ih =>
      rw [List.map_cons, List.mapM_cons, List.mapM_cons]
      exact (agree_compile_constraint hp c).bind fun p => ih.bind fun ps => .refl _
  exact (hcs t.constraints).map _

mutual

theorem agree_lower (hp : Preserving f h) : ∀ (e : Element) (next : Option Nat) (ar : Arena),
    Agree (lower (e.rewrite f h) next ar) (lower e next ar)
  | .token t, next, ar => by
    rw [Element.rewrite, lower, lower]
    exact (agree_compile hp t).map _
  | .anchor s, next, ar => .refl _
  | .group es, next, ar => by
    rw [Element.rewrite, lower, lower]
    have hes := agree_lowerAll hp es next ar
    generalize lowerAll (Element.rewriteAll f h es) next ar = r at hes ⊢
    generalize lowerAll es next ar = r' at hes ⊢
    cases hes with
    | ok a => exact .refl _
    | error e e' => exact .error e e'
  | .alternation es, next, ar => by
    rw [Element.rewrite, lower, lower]
    exact (agree_lowerBranches hp es next ar).map _
  | .negation e, next, ar => by
    rw [Element.rewrite, lower, lower]
    exact (agree_lower hp e none ar).map _
  | .repetition e q, next, ar => by
    rw [Element.rewrite, lower, lower, hp.span]
    exact (agree_lower hp e none ar).map _

theorem agree_lowerAll (hp : Preserving f h) :
  ∀ (es : List Element) (exit : Option Nat) (ar : Arena),
    Agree (lowerAll (Element.rewriteAll f h es) exit ar) (lowerAll es exit ar)
  | [], exit, ar => .refl _
  | e :: es, exit, ar => by
    rw [Element.rewriteAll, lowerAll, lowerAll]
    have hes := agree_lowerAll hp es exit ar
    generalize lowerAll (Element.rewriteAll f h es) exit ar = r at hes ⊢
    generalize lowerAll es exit ar = r' at hes ⊢
    cases hes with
    | ok a => exact (agree_lower hp e _ _).map _
    | error e e' => exact .error e e'

theorem agree_lowerBranches (hp : Preserving f h) :
  ∀ (es : List Element) (exit : Option Nat) (ar : Arena),
    Agree (lowerBranches (Element.rewriteAll f h es) exit ar) (lowerBranches es exit ar)
  | [], exit, ar => .refl _
  | e :: es, exit, ar => by
    rw [Element.rewriteAll, lowerBranches, lowerBranches]
    have he := agree_lower hp e exit ar
    generalize lower (e.rewrite f h) exit ar = r at he ⊢
    generalize lower e exit ar = r' at he ⊢
    cases he with
    | ok a => exact (agree_lowerBranches hp es _ _).map _
    | error e e' => exact .error e e'

end

/-! ## Graphs as text -/

variable {g : Graph}

/-- The texts of the nodes in a chain, which may be empty. -/
def chainFrom (g : Graph) (stop : Option Nat) : (head : Option Nat) → List String
  | none => []
  | some id => g.chain stop id

/-- A node as text when `inner` says what its parts are up to a given node. -/
def Node.text (inner : Option Nat → Nat → String) : Node → String
  | atom a _ => a.text
  | anchor s _ => anchorText s
  | sequence head exit => "(" ++ inner exit head ++ ")"
  | alternation branches exit => "[" ++ spaced (branches.map (inner exit)) ++ "]"
  | repetition body span _ => inner none body ++ span.text
  | negation body _ => "!" ++ inner none body

/-- A chain ends where it has to stop. -/
theorem chainFrom_self (stop : Option Nat) : g.chainFrom stop stop = [] := by
  cases stop with
  | none => rfl
  | some id => rw [chainFrom, chain, if_pos rfl]

/-- A chain is its first node and the chain of what comes after. -/
theorem chain_eq {stop : Option Nat} {id : Nat} {n : Node} (hs : some id ≠ stop)
    (hn : g.node? id = some n) :
    g.chain stop id =
      n.text (fun stop l => spaced (g.chain stop l)) :: g.chainFrom stop n.next := by
  rw [chain, if_neg hs]
  split
  · rename_i h
    cases h.symm.trans hn
  · rename_i m h
    obtain rfl := Option.some.inj (h.symm.trans hn)
    have hparts (exit : Option Nat) : (m.parts.attach.map fun l => spaced (g.chain exit l.1)) =
        m.parts.map fun l => spaced (g.chain exit l) := by
      simp
    rw [List.cons_eq_cons]
    constructor
    · cases m with
      | atom a next | anchor s next => rfl
      | sequence head exit =>
        have hinner := (congrArg spaced (hparts exit)).trans (spaced_singleton _)
        exact congrArg ("(" ++ · ++ ")") hinner
      | alternation branches exit =>
        exact congrArg ("[" ++ spaced · ++ "]") (hparts exit)
      | repetition body span next =>
        exact congrArg (· ++ span.text) ((congrArg spaced (hparts none)).trans (spaced_singleton _))
      | negation body next =>
        exact congrArg ("!" ++ ·) ((congrArg spaced (hparts none)).trans (spaced_singleton _))
    · split
      · rename_i hx
        rw [hx]
        rfl
      · rename_i hx
        rw [hx]
        rfl

theorem text_of_compile_constraint {c : Constraint} {p : PropertyTest}
    (h : PropertyTest.compile c = .ok p) : p.text = c.text := by
  obtain ⟨v, hv, rfl⟩ := map_eq_ok h
  refine congrArg ("," ++ c.name ++ ·) ?_
  rcases ValueTest.compile_eq_ok hv with ⟨s, hs, rfl⟩ | ⟨l, r, hl, hs, hf, rfl⟩ | ⟨hp, rfl⟩
  · rw [hs]
    rfl
  · rw [hl, ValueTest.text, Expected.written, hs, hf]
  · rw [hp]
    rfl

theorem texts_of_compile {cs : List Constraint} {ps : List PropertyTest}
    (h : List.Forall₂ (fun c p => PropertyTest.compile c = .ok p) cs ps) :
    ps.map (·.text) = cs.map (·.text) := by
  induction h with
  | nil => rfl
  | cons hc _ ih => rw [List.map_cons, List.map_cons, text_of_compile_constraint hc, ih]

/-- An atom is written like the test it was compiled from. -/
theorem text_of_compile {t : TokenTest} {a : Atom} (h : Atom.compile t = .ok a) :
    a.text = t.text := by
  obtain ⟨hkind, hps⟩ := Atom.compile_eq_ok h
  rw [Atom.text, TokenTest.text, texts_of_compile hps, hkind]

mutual

/-- **The chain from a node on** begins with the text of its element in its normal form. -/
theorem Lowered.chain_eq : ∀ {e : Element} {id : Nat} {next stop : Option Nat},
    Lowered g e id next → some id ≠ stop →
      g.chain stop id = e.normal.text :: g.chainFrom stop next
  | .token t, id, next, stop, h, hs => by
    cases h with
    | token ha hn =>
      rw [Graph.chain_eq hs hn, Node.text, text_of_compile ha, Element.normal, Element.rewrite,
        TokenTest.rewrite_id]
      rfl
  | .anchor s, id, next, stop, h, hs => by
    cases h with
    | anchor hn =>
      rw [Graph.chain_eq hs hn]
      rfl
  | .group es, id, next, stop, h, hs => by
    cases h with
    | @group _ _ head _ hes hne hn =>
      have hinner : g.chain next head = Element.texts (Element.normalAll es) := hes.chainFrom_eq
      rw [Graph.chain_eq hs hn, Node.text, hinner]
      rfl
  | .alternation es, id, next, stop, h, hs => by
    cases h with
    | alternation hes hn =>
      rw [Graph.chain_eq hs hn, Node.text, hes.chains_eq]
      rfl
  | .negation e, id, next, stop, h, hs => by
    cases h with
    | negation he hn =>
      rw [Graph.chain_eq hs hn, Node.text, he.chain_eq (by simp), chainFrom, spaced_singleton]
      rfl
  | .repetition e q, id, next, stop, h, hs => by
    cases h with
    | repetition he hn =>
      rw [Graph.chain_eq hs hn, Node.text, he.chain_eq (by simp), chainFrom, spaced_singleton,
        ← Span.text_quantifier]
      rfl

theorem LoweredAll.chainFrom_eq : ∀ {es : List Element} {head exit : Option Nat},
    LoweredAll g es head exit → g.chainFrom exit head = Element.texts (Element.normalAll es)
  | [], _, _, .nil => chainFrom_self _
  | e :: es, _, exit, .cons he hes => by
    have hne := LoweredAll.ne_exit (List.cons_ne_nil e es) (.cons he hes)
    rw [chainFrom, he.chain_eq hne, hes.chainFrom_eq]
    rfl

theorem LoweredEach.chains_eq : ∀ {es : List Element} {ids : List Nat} {exit : Option Nat},
    LoweredEach g es ids exit →
      (ids.map fun id => spaced (g.chain exit id)) = Element.texts (Element.normalAll es)
  | [], _, _, .nil => rfl
  | e :: es, _, exit, .cons he hes => by
    rw [List.map_cons, he.chain_eq he.ne_next, chainFrom_self, spaced_singleton, hes.chains_eq]
    rfl

end

/-- **The text of the graph of a pattern** is the text of the pattern in its normal form. -/
theorem text_ofElements {es : List Element} (h : ofElements es = .ok g) :
    g.text = spaced (Element.texts (Element.normalAll es)) := by
  cases lowered_ofElements h with
  | @group _ _ head _ hes hne hn =>
    have hinner : g.chain none head = Element.texts (Element.normalAll es) := hes.chainFrom_eq
    rw [text, hn]
    exact congrArg spaced hinner

end Motif.Graph
