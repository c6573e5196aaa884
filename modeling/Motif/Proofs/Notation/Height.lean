import Motif.Proofs.Notation.RoundTrip

/-!
# How deep patterns are nested

A parser counts how deep the next element is nested, and compares that with `maxDepth`. No element
is nested deeper than the elements that are read in the end, so the tree alone tells how much room
reading took.

* `parseStep_height`: a step never forgets how deep the pattern has been nested.
* **`parseFrom_height`**: while a pattern is read, nothing is nested deeper than in its tree.
-/

namespace Motif.Pattern

namespace Element

mutual

/-- How many groups, alternations and negations there are at most on a path in an element. -/
def height : Element → Nat
  | token _ | anchor _ => 0
  | group es | alternation es => heightAll es + 1
  | negation e => e.height + 1
  | repetition e _ => e.height

/-- How many groups, alternations and negations there are at most on a path in some elements. -/
def heightAll : List Element → Nat
  | [] => 0
  | e :: es => max e.height (heightAll es)

end

/-- Of two lists in a row, the higher one counts. -/
theorem heightAll_append (es fs : List Element) :
    heightAll (es ++ fs) = max (heightAll es) (heightAll fs) := by
  induction es with
  | nil => exact (Nat.zero_max _).symm
  | cons e es ih => rw [List.cons_append, heightAll, heightAll, ih, Nat.max_assoc]

theorem heightAll_reverse (es : List Element) : heightAll es.reverse = heightAll es := by
  induction es with
  | nil => rfl
  | cons e es ih =>
    rw [List.reverse_cons, heightAll_append, ih, heightAll, heightAll, heightAll, Nat.max_zero,
      Nat.max_comm]

/-- Every negation adds a level. -/
theorem height_negated (n : Nat) (e : Element) : (e.negated n).height = e.height + n := by
  induction n with
  | zero => rfl
  | succ n ih => exact congrArg (· + 1) ih

/-- A list is within a height iff each of its elements is. -/
theorem heightAll_le_iff {es : List Element} {n : Nat} :
    heightAll es ≤ n ↔ ∀ e ∈ es, e.height ≤ n := by
  induction es with
  | nil => exact iff_of_true (Nat.zero_le n) (List.forall_mem_nil _)
  | cons e es ih => rw [heightAll, Nat.max_le, List.forall_mem_cons, ih]

/-- What can be written inside of `depth` others is not nested deeper than that leaves room for. -/
theorem WellFormed.height_le {e : Element} {depth : Nat} (h : e.WellFormed depth)
    (hd : depth ≤ maxDepth) : e.height ≤ maxDepth - depth := by
  induction h with
  | token | anchor => exact Nat.zero_le _
  | group hlt _ _ ih | alternation hlt _ _ ih =>
    have hes := heightAll_le_iff.mpr fun e he => ih e he hlt
    rw [height]
    omega
  | negation hlt _ _ ih =>
    have he := ih hlt
    rw [height]
    omega
  | repetition _ _ _ ih => exact ih hd

end Element

/-- A bracket adds a level to its elements. -/
theorem Bracket.height_element (b : Bracket) (es : List Element) :
    (b.element es).height = Element.heightAll es + 1 := by
  cases b <;> rfl

/-- How deep the elements before open brackets are nested in the whole. -/
def framesHeight : List Frame → Nat
  | [] => 0
  | f :: frames => max (nesting frames + Element.heightAll f.before) (framesHeight frames)

namespace ParseState

/-- How deep a pattern has been nested so far. -/
def height (s : ParseState) : Nat :=
  max s.depth (max (nesting s.frames + Element.heightAll s.settled) (framesHeight s.frames))

variable {s s' : ParseState} {b : Bracket} {i : Nat}

theorem depth_eq (s : ParseState) : s.depth = nesting s.frames + s.waiting := rfl

theorem waiting_of_idle (h : s.Idle) : s.waiting = 0 := by
  unfold waiting
  split
  · rename_i hm
    exact absurd hm (h _ _)
  · rfl

/-- The place where the state reads is no deeper than what it has read goes. -/
theorem depth_le_height (s : ParseState) : s.depth ≤ s.height :=
  Nat.le_max_left _ _

/-- What has been read stays as deep when an element is added. -/
theorem height_push (s : ParseState) (e : Element) : s.height ≤ (s.push e).height := by
  have hsettled : (s.push e).settled = e.negated s.waiting :: s.settled := rfl
  have hframes : (s.push e).frames = s.frames := rfl
  rw [height, height, hsettled, hframes, Element.heightAll, Element.height_negated, depth_eq]
  omega

theorem height_negate (s : ParseState) (i : Nat) : s.height ≤ (s.negate i).height := by
  have hsettled : (s.negate i).settled = s.settled := rfl
  have hframes : (s.negate i).frames = s.frames := rfl
  have hdepth : (s.negate i).depth = s.depth + 1 := rfl
  rw [height, height, hsettled, hframes, hdepth]
  omega

theorem height_enter (s : ParseState) (b : Bracket) (i : Nat) :
    s.height ≤ (s.enter b i).height := by
  have hframes : (s.enter b i).frames = ⟨b, i, s.waiting, s.settled⟩ :: s.frames := rfl
  have hdepth : (s.enter b i).depth = s.depth + 1 := nesting_cons _ _
  rw [height, height, hdepth, hframes, framesHeight]
  dsimp only
  omega

/-- When a bracket is closed, its elements stay as deep as they were inside of it. -/
theorem height_leave (hw : s.waiting = 0) (h : s.leave b i = .ok s') : s.height ≤ s'.height := by
  unfold leave at h
  split at h
  · cases h
  · rename_i f frames hf
    split at h
    · cases h
    · split at h
      · cases h
      · obtain rfl := Except.ok.inj h
        -- the elements of the bracket are as deep in the element that it becomes
        rw [height, height, depth_eq, hw, hf, nesting_cons, framesHeight]
        show _ ≤ max _ (max (nesting frames + max (Element.height _) (Element.heightAll f.before))
          (framesHeight frames))
        rw [Element.height_negated, Bracket.height_element, Element.heightAll_reverse]
        omega

/-- Nothing is forgotten where elements are settled. -/
theorem height_of_settled (hf : s'.frames = s.frames) (hw : s.waiting = 0)
    (hs : Element.heightAll s.settled ≤ Element.heightAll s'.settled) : s.height ≤ s'.height := by
  rw [height, height, depth_eq, hw, hf]
  omega

end ParseState

/-! ## Steps and whole patterns -/

variable {s s' : ParseState} {c : Char} {cs : List Char} {i : Nat} {b : Cursor}

/-- Where an element is due, a step does not lower the height. -/
theorem stepElement_height (h : stepElement s c cs i = .ok (s', b)) : s.height ≤ s'.height := by
  unfold stepElement at h
  dsimp only at h
  split at h
  case h_1 | h_2 | h_3 =>
    obtain ⟨_, hn, h⟩ := Graph.map_eq_ok h
    obtain ⟨-, rfl⟩ := ParseState.nest_eq_ok hn
    obtain ⟨rfl, -⟩ := Prod.mk.inj h
    first
      | exact s.height_negate i
      | exact s.height_enter _ i
  case h_4 | h_5 =>
    obtain ⟨rfl, -⟩ := Prod.mk.inj (Except.ok.inj h)
    exact s.height_push _
  case h_6 | h_7 =>
    obtain ⟨_, -, rfl⟩ := Reading.map_eq_ok h
    exact s.height_push _
  case h_8 =>
    split at h
    · cases h
    · obtain ⟨_, -, rfl⟩ := Reading.map_eq_ok h
      exact s.height_push _

/-- Nor does a step between elements, where no negation waits. -/
theorem stepBetween_height (hw : s.waiting = 0) (h : stepBetween s c cs i = .ok (s', b)) :
    s.height ≤ s'.height := by
  unfold stepBetween at h
  split at h
  · obtain ⟨rfl, -⟩ := Prod.mk.inj (Except.ok.inj h)
    exact ParseState.height_of_settled rfl hw (Nat.le_refl _)
  · split at h
    · obtain ⟨_, hl, h⟩ := Graph.map_eq_ok h
      obtain ⟨rfl, -⟩ := Prod.mk.inj h
      exact ParseState.height_leave hw hl
    · exact stepElement_height h

/-- A step never forgets how deep the pattern has been nested. -/
theorem parseStep_height (h : parseStep s c cs i = .ok (s', b)) : s.height ≤ s'.height := by
  unfold parseStep at h
  split at h
  · split at h
    · cases h
    · exact stepElement_height h
  · rename_i e he
    have hw : s.waiting = 0 := by rw [ParseState.waiting, he]
    split at h
    · -- a repetition is as deep as what it repeats
      obtain ⟨q, -, rfl⟩ := Reading.map_eq_ok h
      refine ParseState.height_of_settled rfl hw ?_
      rw [ParseState.settled, he]
      exact Nat.le_refl _
    · exact stepBetween_height hw h
  · rename_i hm
    exact stepBetween_height (ParseState.waiting_of_ready hm) h

/-- **While a pattern is read**, nothing is nested deeper than in its tree. -/
theorem parseFrom_height {a : Cursor} {es : List Element} (h : parseFrom s a = .ok es) :
    s.height ≤ Element.heightAll es := by
  fun_induction parseFrom s a with
  | case1 s a _ =>
    obtain ⟨hf, hidle, rfl⟩ := ParseState.finish_eq_ok h
    rw [ParseState.height, ParseState.depth_eq, ParseState.waiting_of_idle hidle, hf,
      Element.heightAll_reverse]
    show max 0 (max (0 + Element.heightAll s.settled) 0) ≤ _
    omega
  | case2 => cases h
  | case3 s a c cs _ s' b hstep ih => exact Nat.le_trans (parseStep_height hstep) (ih h)

/-- No pattern is nested deeper than `maxDepth`. -/
theorem parse_heightAll_le {source : String} {es : List Element} (h : parse source = .ok es) :
    Element.heightAll es ≤ maxDepth :=
  Element.heightAll_le_iff.mpr fun e he =>
    ((parse_wellFormed h).2 e he).height_le (Nat.zero_le _)

end Motif.Pattern
