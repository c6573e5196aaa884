import Mathlib.Algebra.BigOperators.Group.List.Basic
import Motif.Proofs.Graph.Lowered
import Motif.Proofs.Language.Element
import Motif.Proofs.Notation.WellFormed

/-!
# Meanings of graphs

A node means what may be read from it on to the end of its scope. Links lead to smaller numbers, so
this can be said by recursion on the number.

* `meaning_eq`: the meaning of a node comes from those of the nodes it leads to.
* `isNullable_iff`: the flags of a graph say whether a scope can end without a symbol.
* `avoids_start`: only patterns that ask for the start of the text have words with its sentinel.
* `Lowered.meaning_eq`: a node that stands for an element means what the element does, and then
  what comes after it.
-/

namespace Motif.Graph

open Pattern

/-- What comes after an element means: nothing more is read at the end of a scope. -/
def continuing (m : Nat → Meaning) : (next : Option Nat) → Meaning
  | none => 1
  | some id => m id

theorem continuing_congr {m m' : Nat → Meaning} {next : Option Nat}
    (h : ∀ l ∈ next, m l = m' l) : continuing m next = continuing m' next := by
  cases next with
  | none => rfl
  | some id => exact h id rfl

theorem nil_mem_sum {ms : List Meaning} :
    [] ∈ ms.sum.accepted ↔ ∃ m ∈ ms, [] ∈ m.accepted := by
  induction ms with
  | nil => simp
  | cons m ms ih => simp [Language.mem_add, ih]

theorem nil_mem_mul {a b : Meaning} :
    [] ∈ (a * b).accepted ↔ [] ∈ a.accepted ∧ [] ∈ b.accepted := by
  rw [Meaning.mul_accepted, Language.mem_mul]
  constructor
  · rintro ⟨u, hu, v, hv, h⟩
    obtain ⟨rfl, rfl⟩ := List.append_eq_nil_iff.mp h
    exact ⟨hu, hv⟩
  · rintro ⟨ha, hb⟩
    exact ⟨[], ha, [], hb, rfl⟩

theorem toNat_eq_zero {n : UInt32} : n.toNat = 0 ↔ n = 0 := by
  rw [← UInt32.toNat_inj]
  rfl

theorem nil_mem_begun {s : Span} {a : Meaning} :
    [] ∈ (a.begun s).accepted ↔ s.min = 0 ∨ [] ∈ a.accepted := by
  have hp : [] ∉ (a.proper * a.remaining s 1).accepted := by
    rw [nil_mem_mul]
    simp
  rw [Meaning.begun, Meaning.add_accepted, Language.mem_add, Meaning.mem_emptyIf, or_iff_left hp,
    and_iff_left rfl, Span.isSatisfied, decide_eq_true_eq, Nat.le_zero]
  exact or_congr_left toNat_eq_zero

/-- Nothing is gained by always trying the first repetition of an element that is well formed. -/
theorem repeated_eq {s : Span} (h : s.WellFormed) (a : Meaning) : a.repeated s = a.begun s := by
  refine Meaning.repeated_eq_begun (fun m hm => ?_) (fun m hm => ?_) a
  · refine Nat.pos_of_ne_zero fun h0 => h.max_ne ?_
    rw [Option.mem_def.mp hm, toNat_eq_zero.mp h0]
  · exact h.min_le m hm

variable [RegexEngine]

/-- What a node means when `m` says so of the nodes that it leads to. -/
def Node.meaning (m : Nat → Meaning) : Node → Meaning
  | atom a next => .symbols (fun x => ∃ t, x = .token t ∧ a.accepts t = true) * continuing m next
  | anchor s next => .symbols (· = .sentinel s) * continuing m next
  | sequence head _ => m head
  | alternation branches _ => (branches.map m).sum
  | repetition body span next => (m body).begun span * continuing m next
  | negation body next => (m body).negated * continuing m next

/-- The meaning of a node depends on the nodes it leads to. -/
theorem Node.meaning_congr {m m' : Nat → Meaning} {n : Node} (h : ∀ l ∈ n.links, m l = m' l) :
    n.meaning m = n.meaning m' := by
  have hnext : continuing m n.next = continuing m' n.next :=
    continuing_congr fun l hl => h l (List.mem_append_right _ (by simpa using hl))
  have hpart : ∀ l ∈ n.parts, m l = m' l := fun l hl => h l (List.mem_append_left _ hl)
  cases n with
  | atom a next => exact congrArg (_ * ·) hnext
  | anchor s next => exact congrArg (_ * ·) hnext
  | sequence head exit => exact hpart head (by simp [parts])
  | alternation branches exit => exact congrArg List.sum (List.map_congr_left hpart)
  | repetition body span next =>
    exact congrArg₂ (· * ·) (congrArg _ (hpart body List.mem_cons_self)) hnext
  | negation body next =>
    exact congrArg₂ (· * ·) (congrArg _ (hpart body List.mem_cons_self)) hnext

/-- What may be read from a node on. -/
def meaning (g : Graph) (id : Nat) : Meaning :=
  match g.node? id with
  | none => 0
  | some n => n.meaning fun l => if _h : l < id then g.meaning l else 0
termination_by id

theorem meaning_of_node?_none {g : Graph} {id : Nat} (h : g.node? id = none) :
    g.meaning id = 0 := by
  rw [meaning, h]

/-- The meaning of a node comes from those of the nodes it leads to. -/
theorem meaning_eq {g : Graph} {id : Nat} {n : Node} (h : g.node? id = some n) :
    g.meaning id = n.meaning g.meaning := by
  rw [meaning, h]
  exact Node.meaning_congr fun l hl => dif_pos (link_lt h hl)

/-! ## Flags of nodes that may be passed -/

theorem Node.isNullable_congr {f f' : Nat → Bool} {n : Node} (h : ∀ l ∈ n.links, f l = f' l) :
    n.isNullable f = n.isNullable f' := by
  have hnext : n.next.all f = n.next.all f' := by
    cases hn : n.next with
    | none => rfl
    | some l => exact h l (List.mem_append_right _ (by simp [hn]))
  have hpart : ∀ l ∈ n.parts, f l = f' l := fun l hl => h l (List.mem_append_left _ hl)
  cases n with
  | atom a next => rfl
  | anchor s next => rfl
  | negation body next => rfl
  | sequence head exit => exact hpart head (by simp [parts])
  | alternation branches exit =>
    show branches.any f = branches.any f'
    rw [Bool.eq_iff_iff, List.any_eq_true, List.any_eq_true]
    exact exists_congr fun l => and_congr_right fun hl => by rw [hpart l hl]
  | repetition body span next =>
    exact congrArg₂ (· && ·) (congrArg _ (hpart body List.mem_cons_self)) hnext

/-- Flags of further nodes, which come after those there are. -/
def addFlags (ns : List Node) (flags : Array Bool) : Array Bool :=
  ns.foldl (fun flags n => flags.push (n.isNullable (flags.getD · false))) flags

theorem getD_addFlags_of_lt : ∀ (ns : List Node) {flags : Array Bool} {i : Nat},
    i < flags.size → (addFlags ns flags).getD i false = flags.getD i false
  | [], _, _, _ => rfl
  | n :: ns, flags, i, h => by
    show (addFlags ns (flags.push _)).getD i false = _
    rw [getD_addFlags_of_lt ns (by rw [Array.size_push]; omega), Array.getD_eq_getD_getElem?,
      Array.getElem?_push_lt h, Array.getD_eq_getD_getElem?, Array.getElem?_eq_getElem h]

theorem getD_addFlags : ∀ (ns : List Node) (flags : Array Bool) {k : Nat} {n : Node},
    ns[k]? = some n → (∀ l ∈ n.links, l < flags.size + k) →
      (addFlags ns flags).getD (flags.size + k) false =
        n.isNullable ((addFlags ns flags).getD · false)
  | [], _, _, _, h, _ => by simp at h
  | m :: ns, flags, 0, n, h, hl => by
    obtain rfl : m = n := by simpa using h
    show (addFlags ns (flags.push _)).getD flags.size false =
      m.isNullable ((addFlags ns (flags.push _)).getD · false)
    rw [getD_addFlags_of_lt ns (by simp), Array.getD_eq_getD_getElem?, Array.getElem?_push_size]
    refine Node.isNullable_congr fun l h => ?_
    have hlt : l < flags.size := hl l h
    rw [getD_addFlags_of_lt ns (by rw [Array.size_push]; omega), Array.getD_eq_getD_getElem?,
      Array.getD_eq_getD_getElem?, Array.getElem?_push_lt hlt, Array.getElem?_eq_getElem hlt]
  | m :: ns, flags, k + 1, n, h, hl => by
    have hl' : ∀ l ∈ n.links, l < (flags.push (m.isNullable (flags.getD · false))).size + k := by
      intro l h
      have := hl l h
      rw [Array.size_push]
      omega
    have ih := getD_addFlags ns _ (by simpa using h) hl'
    rwa [Array.size_push, Nat.add_assoc, Nat.add_comm 1] at ih

/-- The flag of a node comes from those of the nodes it leads to. -/
theorem isNullable_eq {g : Graph} {id : Nat} {n : Node} (h : g.node? id = some n) :
    g.isNullable id = n.isNullable g.isNullable := by
  have hflags : g.isNullable = fun l => (addFlags g.nodes.toList #[]).getD l false := by
    funext l
    rw [isNullable, g.nullable_eq, Node.nullableFlags, addFlags, Array.foldl_toList]
  have := getD_addFlags g.nodes.toList #[] (by rwa [Array.getElem?_toList])
    (by simpa using g.descends id n h)
  rw [hflags]
  simpa using this

theorem size_addFlags (ns : List Node) (flags : Array Bool) :
    (addFlags ns flags).size = flags.size + ns.length := by
  induction ns generalizing flags with
  | nil => rfl
  | cons n ns ih =>
    show (addFlags ns (flags.push _)).size = _
    rw [ih, Array.size_push, List.length_cons]
    omega

/-- There is a flag for every node. -/
theorem size_nullable (g : Graph) : g.nullable.size = g.nodes.size := by
  have := size_addFlags g.nodes.toList #[]
  rw [addFlags, Array.foldl_toList] at this
  simpa [g.nullable_eq, Node.nullableFlags] using this

theorem isNullable_of_node?_none {g : Graph} {id : Nat} (h : g.node? id = none) :
    g.isNullable id = false := by
  have hn := g.size_nullable
  have hid : g.nodes.size ≤ id := Array.getElem?_eq_none_iff.mp h
  rw [isNullable, Array.getD_eq_getD_getElem?, Array.getElem?_eq_none (by omega)]
  rfl

/-- **The flags are right**: a node is flagged iff its scope can end without a symbol. -/
theorem isNullable_iff (g : Graph) (id : Nat) :
    g.isNullable id = true ↔ [] ∈ (g.meaning id).accepted := by
  induction id using Nat.strong_induction_on with
  | _ id ih =>
    cases h : g.node? id with
    | none => simp [isNullable_of_node?_none h, meaning_of_node?_none h]
    | some n =>
      have hnext : n.next.all g.isNullable = true ↔
          [] ∈ (continuing g.meaning n.next).accepted := by
        cases hn : n.next with
        | none => simp [continuing]
        | some l => exact ih l (link_lt h (by simp [Node.links, hn]))
      have hpart : ∀ l ∈ n.parts, (g.isNullable l = true ↔ [] ∈ (g.meaning l).accepted) :=
        fun l hl => ih l (link_lt h (List.mem_append_left _ hl))
      rw [isNullable_eq h, meaning_eq h]
      cases n with
      | atom a next | anchor s next =>
        rw [Node.isNullable, Node.meaning, nil_mem_mul]
        exact iff_of_false Bool.false_ne_true fun h => Meaning.nil_notMem_symbols _ h.1
      | sequence head exit => exact hpart head List.mem_cons_self
      | alternation branches exit =>
        rw [Node.isNullable, Node.meaning, nil_mem_sum, List.any_eq_true]
        simp only [List.mem_map, exists_exists_and_eq_and]
        exact exists_congr fun l => and_congr_right fun hl => hpart l hl
      | repetition body span next =>
        rw [Node.isNullable, Node.meaning, nil_mem_mul, nil_mem_begun, Bool.and_eq_true,
          Bool.or_eq_true, beq_iff_eq]
        exact and_congr (or_congr_right (hpart body List.mem_cons_self)) hnext
      | negation body next =>
        rw [Node.isNullable, Node.meaning, nil_mem_mul]
        exact iff_of_false Bool.false_ne_true fun h => Meaning.not_pursued_nil _ h.1.1

/-! ## Patterns that do not ask for the start -/

/-- Where no node asks for the start, no word has its sentinel. -/
theorem avoids_start {g : Graph} (h : g.hasStartAnchor = false) (id : Nat) :
    (g.meaning id).Avoids (.sentinel .start) := by
  induction id using Nat.strong_induction_on with
  | _ id ih =>
    cases hn : g.node? id with
    | none =>
      rw [meaning_of_node?_none hn]
      exact fun w hw => absurd hw (Language.notMem_zero w)
    | some n =>
      have hnext : (continuing g.meaning n.next).Avoids (.sentinel .start) := by
        cases hx : n.next with
        | none => exact Meaning.avoids_one
        | some l => exact ih l (link_lt hn (by simp [Node.links, hx]))
      have hpart : ∀ l ∈ n.parts, (g.meaning l).Avoids (.sentinel .start) :=
        fun l hl => ih l (link_lt hn (List.mem_append_left _ hl))
      rw [Graph.meaning_eq hn]
      cases n with
      | atom a next => exact (Meaning.avoids_symbols (by simp)).mul hnext
      | anchor s next =>
        refine (Meaning.avoids_symbols ?_).mul hnext
        intro hs
        obtain rfl := Symbol.sentinel.inj hs
        have hany : g.hasStartAnchor = true := by
          rw [g.hasStartAnchor_eq]
          exact Array.any_eq_true'.mpr ⟨_, Array.mem_of_getElem? hn, rfl⟩
        exact Bool.false_ne_true (h.symm.trans hany)
      | sequence head exit => exact hpart head List.mem_cons_self
      | alternation branches exit =>
        refine Meaning.avoids_sum fun a ha => ?_
        obtain ⟨l, hl, rfl⟩ := List.mem_map.mp ha
        exact hpart l hl
      | repetition body span next => exact ((hpart body List.mem_cons_self).begun span).mul hnext
      | negation body next => exact (Meaning.avoids_negated .start _).mul hnext

/-! ## Elements in graphs -/

variable {g : Graph}

mutual

/-- **A node means what its element means**, and then what comes after it. -/
theorem Lowered.meaning_eq : ∀ {e : Element} {id depth : Nat} {next : Option Nat},
    Lowered g e id next → e.WellFormed depth →
      g.meaning id = e.meaning * continuing g.meaning next
  | .token t, id, depth, next, h, _ => by
    cases h with
    | token ha hn =>
      rw [Graph.meaning_eq hn, Node.meaning, Element.meaning]
      simp only [Atom.accepts_iff_holds ha]
  | .anchor s, id, depth, next, h, _ => by
    cases h with
    | anchor hn => rw [Graph.meaning_eq hn, Node.meaning, Element.meaning]
  | .group es, id, depth, next, h, hw => by
    cases h with
    | group hes hne hn =>
      cases hw with
      | group _ _ hw =>
        rw [Graph.meaning_eq hn, Node.meaning, Element.meaning]
        exact hes.meaning_eq hw
  | .alternation es, id, depth, next, h, hw => by
    cases h with
    | alternation hes hn =>
      cases hw with
      | alternation _ _ hw =>
        rw [Graph.meaning_eq hn, Node.meaning, Element.meaning]
        exact hes.meaning_eq hw
  | .negation e, id, depth, next, h, hw => by
    cases h with
    | negation he hn =>
      cases hw with
      | negation _ _ hw =>
        rw [Graph.meaning_eq hn, Node.meaning, Element.meaning, he.meaning_eq hw]
        simp only [continuing, mul_one]
  | .repetition e q, id, depth, next, h, hw => by
    cases h with
    | repetition he hn =>
      cases hw with
      | repetition _ hw hq =>
        rw [Graph.meaning_eq hn, Node.meaning, Element.meaning, he.meaning_eq hw, repeated_eq hq]
        simp only [continuing, mul_one]

theorem LoweredAll.meaning_eq : ∀ {es : List Element} {depth : Nat} {head exit : Option Nat},
    LoweredAll g es head exit → (∀ e ∈ es, e.WellFormed depth) →
      continuing g.meaning head = Element.meaningAll es * continuing g.meaning exit
  | [], _, _, _, .nil, _ => (one_mul _).symm
  | e :: es, depth, _, exit, .cons he hes, hw => by
    rw [continuing, he.meaning_eq (hw e List.mem_cons_self),
      hes.meaning_eq fun e he => hw e (List.mem_cons_of_mem _ he), Element.meaningAll, mul_assoc]

theorem LoweredEach.meaning_eq : ∀ {es : List Element} {depth : Nat} {ids : List Nat}
    {exit : Option Nat}, LoweredEach g es ids exit → (∀ e ∈ es, e.WellFormed depth) →
      (ids.map g.meaning).sum = Element.meaningAny es * continuing g.meaning exit
  | [], _, _, _, .nil, _ => (Meaning.zero_mul _).symm
  | e :: es, depth, _, exit, .cons he hes, hw => by
    rw [List.map_cons, List.sum_cons, he.meaning_eq (hw e List.mem_cons_self),
      hes.meaning_eq fun e he => hw e (List.mem_cons_of_mem _ he), Element.meaningAny,
      Meaning.add_mul]

end

end Motif.Graph
