import Motif.Pattern.Element

/-!
# Places in trees

A place in a pattern is one occurrence of an element: the way to it from the root, the element, and
what comes after it up to the end of its scope. The places of a pattern are listed in the order in
which nodes are made for them: what an element holds before the element, the elements of a sequence
from the last to the first, and branches from the first to the last.

* `Element.length_places`: there is one place for each element of a tree.
* `Element.pairwise_places`: no two places have the same address.
-/

namespace Motif.Pattern

/-- An occurrence of an element in a tree: the numbers of the parts that lead to it, the element,
and the elements that come after it in its scope. -/
structure Place where
  address : List Nat
  element : Element
  after : List Element

/-- Elements in a sequence, numbered from `i`, before the elements `after`. -/
def inSequence (address : List Nat) (after : List Element) : (i : Nat) → List Element → List Place
  | _, [] => []
  | i, e :: es => ⟨address ++ [i], e, es ++ after⟩ :: inSequence address after (i + 1) es

/-- Elements to choose between, numbered from `i`, each of them before the elements `after`. -/
def inChoice (address : List Nat) (after : List Element) : (i : Nat) → List Element → List Place
  | _, [] => []
  | i, e :: es => ⟨address ++ [i], e, after⟩ :: inChoice address after (i + 1) es

namespace Place

/-- What there is of a scope from a place on. -/
def rest (p : Place) : List Element :=
  p.element :: p.after

/-- The places of what an element holds, from left to right. A repetition and a negation have a
scope of their own. -/
def parts (p : Place) : List Place :=
  match p.element with
  | .token _ | .anchor _ => []
  | .group es => inSequence p.address p.after 0 es
  | .alternation es => inChoice p.address p.after 0 es
  | .negation e | .repetition e _ => [⟨p.address ++ [0], e, []⟩]

end Place

namespace Element

mutual

/-- The places in an element, in the order in which nodes are made for them. -/
def places : (address : List Nat) → (after : List Element) → Element → List Place
  | address, after, token t => [⟨address, token t, after⟩]
  | address, after, anchor s => [⟨address, anchor s, after⟩]
  | address, after, group es => placesAll address after 0 es ++ [⟨address, group es, after⟩]
  | address, after, alternation es =>
    placesEach address after 0 es ++ [⟨address, alternation es, after⟩]
  | address, after, negation e => places (address ++ [0]) [] e ++ [⟨address, negation e, after⟩]
  | address, after, repetition e q =>
    places (address ++ [0]) [] e ++ [⟨address, repetition e q, after⟩]

/-- The places in elements of a sequence, those of the last element first. -/
def placesAll : (address : List Nat) → (after : List Element) → (i : Nat) → List Element →
    List Place
  | _, _, _, [] => []
  | address, after, i, e :: es =>
    placesAll address after (i + 1) es ++ places (address ++ [i]) (es ++ after) e

/-- The places in elements to choose between, those of the first element first. -/
def placesEach : (address : List Nat) → (after : List Element) → (i : Nat) → List Element →
    List Place
  | _, _, _, [] => []
  | address, after, i, e :: es =>
    places (address ++ [i]) after e ++ placesEach address after (i + 1) es

end

mutual

/-- The number of elements in an element, itself counted. -/
def size : Element → Nat
  | token _ | anchor _ => 1
  | group es | alternation es => sizeAll es + 1
  | negation e | repetition e _ => e.size + 1

/-- The number of elements in a list of elements. -/
def sizeAll : List Element → Nat
  | [] => 0
  | e :: es => e.size + sizeAll es

end

mutual

theorem length_places : ∀ (address : List Nat) (after : List Element) (e : Element),
    (places address after e).length = e.size
  | _, _, token _ | _, _, anchor _ => rfl
  | address, after, group es => by
    rw [places, List.length_append, length_placesAll, size, List.length_singleton]
  | address, after, alternation es => by
    rw [places, List.length_append, length_placesEach, size, List.length_singleton]
  | address, after, negation e | address, after, repetition e q => by
    rw [places, List.length_append, length_places, size, List.length_singleton]

theorem length_placesAll : ∀ (address : List Nat) (after : List Element) (i : Nat)
    (es : List Element), (placesAll address after i es).length = sizeAll es
  | _, _, _, [] => rfl
  | address, after, i, e :: es => by
    rw [placesAll, List.length_append, length_placesAll, length_places, sizeAll, Nat.add_comm]

theorem length_placesEach : ∀ (address : List Nat) (after : List Element) (i : Nat)
    (es : List Element), (placesEach address after i es).length = sizeAll es
  | _, _, _, [] => rfl
  | address, after, i, e :: es => by
    rw [placesEach, List.length_append, length_places, length_placesEach, sizeAll]

end

end Element

/-- The places of a pattern, in the order in which nodes are made for them. The pattern as a whole
is the last. -/
def places (es : List Element) : List Place :=
  Element.places [] [] (.group es)

/-! ## Addresses -/

namespace Element

/-- Places that are led to by one of the parts from `i` on. -/
def Below (address : List Nat) (i : Nat) (ps : List Place) : Prop :=
  ∀ p ∈ ps, ∃ j, i ≤ j ∧ address ++ [j] <+: p.address

theorem Below.mono {address : List Nat} {i j : Nat} {ps : List Place} (h : Below address j ps)
    (hij : i ≤ j) : Below address i ps := by
  intro p hp
  obtain ⟨k, hk, hpre⟩ := h p hp
  exact ⟨k, Nat.le_trans hij hk, hpre⟩

/-- What is led to by a part is not the place that has the part. -/
theorem Below.ne {address : List Nat} {i : Nat} {ps : List Place} (h : Below address i ps)
    {p : Place} (hp : p ∈ ps) : p.address ≠ address := by
  obtain ⟨j, -, hpre⟩ := h p hp
  intro heq
  have hle := hpre.length_le
  rw [heq, List.length_append, List.length_singleton] at hle
  omega

/-- Places that are led to by different parts have different addresses. -/
theorem Below.ne_of_prefix {address : List Nat} {i j : Nat} {ps : List Place}
    (h : Below address j ps) (hij : i < j) {p q : Place} (hp : p ∈ ps)
    (hq : address ++ [i] <+: q.address) : p.address ≠ q.address := by
  obtain ⟨k, hk, hpre⟩ := h p hp
  intro heq
  rw [heq] at hpre
  have hsame : address ++ [i] = address ++ [k] :=
    (List.prefix_of_prefix_length_le hq hpre (by simp)).eq_of_length (by simp)
  have hik : i = k := by simpa using hsame
  omega

mutual

theorem prefix_places : ∀ {e : Element} {address : List Nat} {after : List Element},
    ∀ p ∈ places address after e, address <+: p.address
  | token _, _, _ | anchor _, _, _ => List.forall_mem_singleton.mpr (List.prefix_refl _)
  | group es, address, after => by
    rw [places, List.forall_mem_append, List.forall_mem_singleton]
    refine ⟨fun p hp => ?_, List.prefix_refl _⟩
    obtain ⟨j, -, hpre⟩ := below_placesAll p hp
    exact (List.prefix_append _ _).trans hpre
  | alternation es, address, after => by
    rw [places, List.forall_mem_append, List.forall_mem_singleton]
    refine ⟨fun p hp => ?_, List.prefix_refl _⟩
    obtain ⟨j, -, hpre⟩ := below_placesEach p hp
    exact (List.prefix_append _ _).trans hpre
  | negation e, address, after | repetition e q, address, after => by
    rw [places, List.forall_mem_append, List.forall_mem_singleton]
    exact ⟨fun p hp => (List.prefix_append _ _).trans (prefix_places p hp), List.prefix_refl _⟩

theorem below_placesAll : ∀ {es : List Element} {address : List Nat} {after : List Element}
    {i : Nat}, Below address i (placesAll address after i es)
  | [], _, _, _ => List.forall_mem_nil _
  | e :: es, address, after, i => by
    rw [placesAll, Below, List.forall_mem_append]
    exact ⟨below_placesAll.mono (Nat.le_succ i), fun p hp => ⟨i, Nat.le_refl i, prefix_places p hp⟩⟩

theorem below_placesEach : ∀ {es : List Element} {address : List Nat} {after : List Element}
    {i : Nat}, Below address i (placesEach address after i es)
  | [], _, _, _ => List.forall_mem_nil _
  | e :: es, address, after, i => by
    rw [placesEach, Below, List.forall_mem_append]
    refine ⟨fun p hp => ⟨i, Nat.le_refl i, prefix_places p hp⟩, ?_⟩
    exact below_placesEach.mono (Nat.le_succ i)

end

/-- Places with addresses of their own, and the place that holds them all. -/
theorem pairwise_concat {ps : List Place} {p : Place} {i : Nat}
    (h : ps.Pairwise (·.address ≠ ·.address)) (hb : Below p.address i ps) :
    (ps ++ [p]).Pairwise (·.address ≠ ·.address) := by
  rw [List.pairwise_append]
  exact ⟨h, List.pairwise_singleton _ _, fun q hq =>
    List.forall_mem_singleton.mpr (hb.ne hq)⟩

mutual

/-- **No two places** have the same address. -/
theorem pairwise_places : ∀ {e : Element} {address : List Nat} {after : List Element},
    (places address after e).Pairwise (·.address ≠ ·.address)
  | token _, _, _ | anchor _, _, _ => List.pairwise_singleton _ _
  | group _, _, _ => pairwise_concat pairwise_placesAll below_placesAll
  | alternation _, _, _ => pairwise_concat pairwise_placesEach below_placesEach
  | negation _, _, _ | repetition _ _, _, _ =>
    pairwise_concat pairwise_places fun p hp => ⟨0, Nat.le_refl 0, prefix_places p hp⟩

theorem pairwise_placesAll : ∀ {es : List Element} {address : List Nat} {after : List Element}
    {i : Nat}, (placesAll address after i es).Pairwise (·.address ≠ ·.address)
  | [], _, _, _ => .nil
  | e :: es, address, after, i => by
    rw [placesAll, List.pairwise_append]
    exact ⟨pairwise_placesAll, pairwise_places, fun p hp q hq =>
      below_placesAll.ne_of_prefix (Nat.lt_succ_self i) hp (prefix_places q hq)⟩

theorem pairwise_placesEach : ∀ {es : List Element} {address : List Nat} {after : List Element}
    {i : Nat}, (placesEach address after i es).Pairwise (·.address ≠ ·.address)
  | [], _, _, _ => .nil
  | e :: es, address, after, i => by
    rw [placesEach, List.pairwise_append]
    exact ⟨pairwise_places, pairwise_placesEach, fun p hp q hq =>
      (below_placesEach.ne_of_prefix (Nat.lt_succ_self i) hq (prefix_places p hp)).symm⟩

end

end Element

end Motif.Pattern
