import Mathlib
import Motif.Proofs.Match.Calls
import Motif.Proofs.Match.Walk
import Motif.Regex.Standard

/-!
# What a pattern sees of a token (specification §4.2, E3)

A pattern sees the kind and the text of a token, and of the properties that it names the texts of
their values and whether they are set. Tokens that look alike in this way are taken by the same
atoms, so threads go on in the same way whichever of them is fed, and two runs of a matcher with
such tokens cannot be told apart.

* `Atom.accepts_congr`: an atom that names no other properties takes both tokens or neither.
* `walk_congr`, `advance_congr`, `step_congr`: threads report the same for symbols that look alike.
* `call_congr`, `after_congr`: a matcher does the same, call by call and in a run.
* **`answers_congr`**: what a pattern does not name has no influence on its matchers.
-/

namespace Motif

/-! ## Tokens that look alike -/

namespace Token

/-- What can be seen of a property: the text of its value, and whether it is set. -/
def observed? (t : Token) (name : String) : Option (String × Bool) :=
  (t.get? name).map fun v => (v.asText, v.isSet)

/-- Two tokens that cannot be told apart by their kinds, their texts, and what can be seen of the
properties in `names`. What is stored under the name by which constraints address the text does not
count. -/
structure Alike (names : List String) (t u : Token) : Prop where
  kind : t.kind = u.kind
  text : t.text = u.text
  observed : ∀ name ∈ names, name ≠ textName → t.observed? name = u.observed? name

variable {names : List String} {t u : Token}

theorem asText_of_observed?_eq {name : String} (h : t.observed? name = u.observed? name) :
    (t.get? name).map (·.asText) = (u.get? name).map (·.asText) := by
  have hfst := congrArg (Option.map Prod.fst) h
  rwa [observed?, observed?, Option.map_map, Option.map_map] at hfst

theorem isSet_of_observed?_eq {name : String} (h : t.observed? name = u.observed? name) :
    (t.get? name).any (·.isSet) = (u.get? name).any (·.isSet) := by
  have hsnd := congrArg (Option.any Prod.snd) h
  rwa [observed?, observed?, Option.any_map, Option.any_map] at hsnd

theorem Alike.propertyText?_eq (h : t.Alike names u) {name : String} (hn : name ∈ names) :
    t.propertyText? name = u.propertyText? name := by
  rw [propertyText?, propertyText?, h.text]
  split
  · rfl
  · rename_i hne
    exact asText_of_observed?_eq (h.observed name hn hne)

/-- A property may be written if it is not named, or goes by the name of the text. -/
theorem alike_set {name : String} (h : name = textName ∨ name ∉ names) (t : Token) (v : Value) :
    t.Alike names (t.set name v) where
  kind := rfl
  text := rfl
  observed := by
    intro q hq hne
    have hqn : q ≠ name := by
      rintro rfl
      exact h.elim hne (absurd hq)
    rw [observed?, observed?, get?_set, if_neg hqn]

/-- Of two values with the same text that are both set, or both not, either may be written. -/
theorem alike_set_set {v w : Value} (htext : v.asText = w.asText) (hset : v.isSet = w.isSet)
    (t : Token) (name : String) : (t.set name v).Alike names (t.set name w) where
  kind := rfl
  text := rfl
  observed := by
    intro q _ _
    rw [observed?, observed?, get?_set, get?_set]
    split
    · rw [Option.map_some, Option.map_some, htext, hset]
    · rfl

end Token

/-- Two symbols that cannot be told apart: the same sentinel, or tokens that look alike. -/
inductive Symbol.Alike (names : List String) : Symbol → Symbol → Prop
  | sentinel (s : Sentinel) : Alike names (.sentinel s) (.sentinel s)
  | token {t u : Token} : t.Alike names u → Alike names (.token t) (.token u)

/-- Two calls that cannot be told apart: the same, but for tokens that look alike. -/
inductive Call.Alike (names : List String) : Call → Call → Prop
  | add {t u : Token} : t.Alike names u → Alike names (.add t) (.add u)
  | finish : Alike names .finish .finish
  | reset : Alike names .reset .reset

section

variable [RegexEngine]

/-! ## Tests -/

namespace Pattern

variable {names : List String} {t u : Token}

/-- A condition on a property in `names` is met by both tokens or by neither. -/
theorem PropertyTest.accepts_congr (h : t.Alike names u) {p : PropertyTest} (hp : p.name ∈ names) :
    p.accepts t = p.accepts u := by
  unfold PropertyTest.accepts
  cases p.value with
  | present =>
    by_cases hname : p.name = Token.textName
    · simp [hname]
    · dsimp only
      rw [Token.isSet_of_observed?_eq (h.observed p.name hp hname)]
  | exact s | regex r =>
    dsimp only
    rw [h.propertyText?_eq hp]

/-- **An atom** with conditions on properties in `names` only takes both tokens or neither. -/
theorem Atom.accepts_congr (h : t.Alike names u) {a : Atom}
    (ha : ∀ p ∈ a.properties, p.name ∈ names) : a.accepts t = a.accepts u := by
  have hall : a.properties.all (·.accepts t) = a.properties.all (·.accepts u) := by
    rw [Bool.eq_iff_iff, List.all_eq_true, List.all_eq_true]
    exact forall₂_congr fun p hp => by rw [PropertyTest.accepts_congr h (ha p hp)]
  rw [Atom.accepts, Atom.accepts, h.kind, hall]

end Pattern

/-! ## What nodes and threads report -/

namespace Graph

/-- The names of the properties that a node has conditions on. -/
def Node.names : Node → List String
  | atom a _ => a.properties.map (·.name)
  | _ => []

/-- The names of the properties that a pattern has conditions on. -/
def names (g : Graph) : List String :=
  g.nodes.toList.flatMap Node.names

variable {g : Graph} {counting : Pattern.Counting} {sym sym' : Symbol}

theorem name_mem_names {id : Nat} {a : Pattern.Atom} {next : Option Nat}
    (hn : g.node? id = some (.atom a next)) : ∀ p ∈ a.properties, p.name ∈ g.names := by
  intro p hp
  have hmem : Node.atom a next ∈ g.nodes.toList := (Array.mem_of_getElem? hn).val
  exact List.mem_flatMap.mpr ⟨_, hmem, List.mem_map_of_mem hp⟩

theorem takesToken_congr (h : sym.Alike g.names sym') {id : Nat} {a : Pattern.Atom}
    {next : Option Nat} (hn : g.node? id = some (.atom a next)) :
    takesToken a sym = takesToken a sym' := by
  cases h with
  | sentinel s => rfl
  | token h => exact Pattern.Atom.accepts_congr h (name_mem_names hn)

theorem stepNegation_congr {names : List String} (h : sym.Alike names sym') (id : Nat)
    (next : Option Nat) (inner : Report) :
    g.stepNegation id next sym inner = g.stepNegation id next sym' inner := by
  cases h <;> rfl

/-- **A node** reports the same for symbols that look alike. -/
theorem walk_congr (h : sym.Alike g.names sym') (id : Nat) :
    g.walk counting sym [id] = g.walk counting sym' [id] := by
  induction id using Nat.strongRecOn with
  | ind id ih =>
    cases hn : g.node? id with
    | none => rw [walk_single_of_none hn, walk_single_of_none hn]
    | some n =>
      rw [walk_single hn, walk_single hn]
      congr 1
      · cases n with
        | atom a next => rw [Node.own, Node.own, takesToken_congr h hn]
        | anchor s next =>
          have hsym : sym = .sentinel s ↔ sym' = .sentinel s := by
            cases h with
            | sentinel s' => rfl
            | token h => exact iff_of_false Symbol.noConfusion Symbol.noConfusion
          rw [Node.own, Node.own, decide_eq_decide.mpr hsym]
        | sequence head exit | alternation branches exit => rfl
        | repetition body span next =>
          rw [Node.own, Node.own, ih body (link_lt hn List.mem_cons_self)]
        | negation body next =>
          rw [Node.own, Node.own, ih body (link_lt hn List.mem_cons_self), stepNegation_congr h]
      · refine congrArg _ (List.map_congr_left fun l hl => ih l ?_)
        exact link_lt hn ((n.pushed_sublist g).subset hl)

/-- **A thread** reports the same for symbols that look alike. -/
theorem advance_congr (h : sym.Alike g.names sym') (t : Thread) :
    g.advance counting sym t = g.advance counting sym' t := by
  fun_induction Graph.advance g counting sym t with
  | case1 id =>
    rw [advance]
    exact walk_congr h id
  | case2 id count threads body span next hn ih =>
    rw [← advance, advance_repetition hn, advance_repetition hn, List.map_congr_left ih]
  | case3 id count threads hn ih =>
    rw [← advance, advance_repetition_of_forall_ne hn, advance_repetition_of_forall_ne hn]
  | case4 id threads body next hn ih =>
    rw [← advance, advance_negation hn, advance_negation hn, List.map_congr_left ih,
      stepNegation_congr h]
  | case5 id threads hn ih =>
    rw [← advance, advance_negation_of_forall_ne hn, advance_negation_of_forall_ne hn]

/-- **A step** reports the same for symbols that look alike. -/
theorem step_congr (h : sym.Alike g.names sym') (threads : List Thread) :
    g.step counting threads sym = g.step counting threads sym' :=
  congrArg Report.join (List.map_congr_left fun t _ => advance_congr h t)

end Graph

/-! ## Runs of a matcher -/

namespace Matcher

variable {m : Matcher}

theorem run_congr {sym sym' : Symbol} (h : sym.Alike m.pattern.graph.names sym') :
    m.run sym = m.run sym' := by
  rw [run_eq, run_eq, Graph.step_congr h]

/-- **A call** gets the same answer as one that looks alike, and leaves the same matcher. -/
theorem call_congr {c c' : Call} (h : c.Alike m.pattern.graph.names c') : m.call c = m.call c' := by
  cases h with
  | finish | reset => rfl
  | @add t u h =>
    have hskips : m.skips t = m.skips u := by rw [skips, skips, h.kind]
    show m.add t = m.add u
    rw [add, add, hskips, run_congr (.token h)]

/-- **A run** gets the same answers as one that looks alike, and leaves the same matcher. -/
theorem after_congr {calls calls' : List Call}
    (h : List.Forall₂ (Call.Alike m.pattern.graph.names) calls calls') :
    m.answers calls = m.answers calls' ∧ m.after calls = m.after calls' := by
  -- By the calls of one run: calls that look alike leave one matcher, so only one is followed.
  induction calls generalizing m calls' with
  | nil =>
    cases h
    exact ⟨rfl, rfl⟩
  | cons c cs ih =>
    cases h with
    | @cons _ c' _ cs' hc hcs =>
      have hcall : m.call c = m.call c' := call_congr hc
      have hrest := @ih (m.call c).2 cs' (by rwa [call_pattern])
      rw [answers, answers, after_cons, after_cons, ← hcall, hrest.1, hrest.2]
      exact ⟨rfl, rfl⟩

end Matcher

namespace CompiledPattern

/-- **What a pattern does not name has no influence.** Two runs of a matcher get the same answers if
their calls look alike by the properties that the pattern names, and after as many calls each the
matcher is the same. Calls look alike whatever is stored under the name by which constraints address
the text or under a name that the pattern does not have, and whether a number or its text is
stored. -/
theorem answers_congr (p : CompiledPattern) :
    (∀ calls calls' : List Call, List.Forall₂ (Call.Alike p.graph.names) calls calls' →
      p.matcher.answers calls = p.matcher.answers calls' ∧
      ∀ n, p.matcher.after (calls.take n) = p.matcher.after (calls'.take n)) ∧
    (∀ (t : Token) (name : String) (v : Token.Value),
      name = Token.textName ∨ name ∉ p.graph.names → t.Alike p.graph.names (t.set name v)) ∧
    ∀ (t : Token) (name : String) (n : Int64),
      (t.set name (.number n)).Alike p.graph.names (t.set name (.text (toString n.toInt))) := by
  refine ⟨fun calls calls' h => ⟨?_, fun n => ?_⟩, fun t name v h => Token.alike_set h t v,
    fun t name n => ?_⟩
  · exact (Matcher.after_congr h).1
  · exact (Matcher.after_congr (List.forall₂_take n h)).2
  · have htext : (Token.Value.number n).asText = (Token.Value.text (toString n.toInt)).asText := rfl
    exact Token.alike_set_set htext rfl t name

end CompiledPattern

end

/-- A matcher for `word,n='1'`: the number one and its text are taken alike, with whatever else is
stored. -/
theorem CompiledPattern.answers_congr_number :
    ∃ p, ofElements [.token ⟨some .word, [⟨"n", .text "1"⟩]⟩] "word,n='1'" {} = .ok p ∧
      let t : Token := { kind := .word, text := "a" }
      let u : Token := t.set "n" (.text "1")
      p.matcher.answers [.add (t.set "n" (.number 1)), .finish, .add u] = [true, false, true] ∧
      p.matcher.answers [.add (t.set "n" (.number 1)), .finish, .add u] =
        p.matcher.answers [.add u, .finish, .add (u.set "text" (.flag false))] := by
  refine ⟨_, rfl, by cbv, ?_⟩
  have hone : "1" = toString (1 : Int64).toInt := by cbv
  refine ((answers_congr _).1 _ _ (.cons (.add ?_) (.cons .finish (.cons (.add ?_) .nil)))).1
  · rw [hone]
    exact (answers_congr _).2.2 _ _ _
  · exact (answers_congr _).2.1 _ _ _ (.inl rfl)

end Motif
