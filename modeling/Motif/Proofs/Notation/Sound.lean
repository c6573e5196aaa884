import Motif.Graph.Lower
import Motif.Proofs.Notation.WellFormed

/-!
# What is read is well formed (specification §4.1, E3)

A state in the middle of reading a pattern is well formed if the elements before and inside every
open bracket can be written down where they stand. Every step keeps a state well formed, so a whole
pattern is made of elements that can be written down.

* `parseStep_wellFormed`: a step keeps a state well formed.
* **`parse_wellFormed`**: the elements of a pattern are well formed, and there is at least one.
-/

namespace Motif.Pattern

/-! ## Literals and tests -/

/-- A character that is no backslash may be put in front. -/
theorem PairedEscapes.cons {c : Char} (hc : c ≠ '\\') {cs : List Char} (h : PairedEscapes cs) :
    PairedEscapes (c :: cs) := by
  unfold PairedEscapes
  split <;> simp_all

/-- No source is read that ends in the middle of an escape. -/
theorem readSource_paired {start : Nat} {cs : List Char} {i : Nat} {s : List Char} {a : Cursor}
    (h : readSource start cs i = .ok (s, a)) : PairedEscapes s := by
  fun_induction readSource start cs i generalizing s a with
  | case1 => cases h
  | case2 cs i =>
    obtain ⟨rfl, -⟩ := Prod.mk.inj (Except.ok.inj h)
    trivial
  | case3 => cases h
  | case4 cs i ih =>
    obtain ⟨s', hr, rfl⟩ := Reading.map_eq_ok h
    exact (ih hr).cons (by decide)
  | case5 e cs i he ih =>
    obtain ⟨s', hr, rfl⟩ := Reading.map_eq_ok h
    exact ⟨he, ih hr⟩
  | case6 c cs i _ hnil _ hcons ih =>
    obtain ⟨s', hr, rfl⟩ := Reading.map_eq_ok h
    exact (ih hr).cons (ne_backslash hnil hcons)

/-- The flags read are known ones, and each is read once: `seen` has those read before. -/
theorem readFlags_wellFormed {seen cs : List Char} {i : Nat} {s : List Char} {a : Cursor}
    (h : readFlags seen cs i = .ok (s, a)) :
    (∀ c ∈ s, c ∈ regexFlags ∧ c ∉ seen) ∧ s.Nodup := by
  fun_induction readFlags seen cs i generalizing s a with
  | case1 | case4 =>
    obtain ⟨rfl, -⟩ := Prod.mk.inj (Except.ok.inj h)
    simp
  | case2 seen c cs i _ hc ih =>
    obtain ⟨s', hr, rfl⟩ := Reading.map_eq_ok h
    obtain ⟨hs, hn⟩ := ih hr
    refine ⟨List.forall_mem_cons.mpr ⟨hc, fun d hd => ⟨(hs d hd).1, fun hd' => ?_⟩⟩, ?_⟩
    · exact (hs d hd).2 (List.mem_cons_of_mem c hd')
    · exact List.nodup_cons.mpr ⟨fun hc' => (hs c hc').2 List.mem_cons_self, hn⟩
  | case3 => cases h

/-- A literal that is read can be written down. -/
theorem readRegex_wellFormed {start : Nat} {cs : List Char} {i : Nat} {r : RegexLiteral}
    {a : Cursor} (h : readRegex start cs i = .ok (r, a)) : r.WellFormed := by
  unfold readRegex at h
  split at h
  · cases h
  · rename_i hs
    obtain ⟨flags, hr, rfl⟩ := Reading.map_eq_ok h
    obtain ⟨hf, hn⟩ := readFlags_wellFormed hr
    constructor
    · simpa using readSource_paired hs
    · simpa using fun c hc => (hf c hc).1
    · simpa using hn

/-- An expected value that is read can be written down. -/
theorem readExpected_wellFormed {name : String} {nameAt : Nat} {a b : Cursor} {v : Expected}
    (h : readExpected name nameAt a = .ok (v, b)) : v.WellFormed := by
  unfold readExpected at h
  split at h
  · obtain ⟨s, -, rfl⟩ := Reading.map_eq_ok h
    trivial
  · obtain ⟨r, hr, rfl⟩ := Reading.map_eq_ok h
    exact readRegex_wellFormed hr
  · dsimp only at h
    split at h
    · cases h
    · obtain ⟨rfl, -⟩ := Prod.mk.inj (Except.ok.inj h)
      trivial

/-- The name of a constraint stops at the first character that ends a name, and is not empty. -/
theorem readConstraint_wellFormed {a b : Cursor} {c : Constraint}
    (h : readConstraint a = .ok (c, b)) : c.WellFormed := by
  have hname : ∀ ch ∈ a.takeWhile (!endsName ·), endsName ch = false := by
    intro ch hch
    simpa using List.all_eq_true.mp List.all_takeWhile ch hch
  unfold readConstraint at h
  dsimp only at h
  split at h
  · cases h
  · rename_i hne
    split at h
    · obtain ⟨v, hr, rfl⟩ := Reading.map_eq_ok h
      exact ⟨by simpa using hne, by simpa using hname, readExpected_wellFormed hr⟩
    · obtain ⟨rfl, -⟩ := Prod.mk.inj (Except.ok.inj h)
      exact ⟨by simpa using hne, by simpa using hname, trivial⟩

/-- Every constraint of a list can be written down. -/
theorem readConstraints_wellFormed {a b : Cursor} {cs : List Constraint}
    (h : readConstraints a = .ok (cs, b)) : ∀ c ∈ cs, c.WellFormed := by
  fun_induction readConstraints a generalizing cs b with
  | case1 => cases h
  | case2 a _ _ c _ hc ih =>
    obtain ⟨cs', hr, rfl⟩ := Reading.map_eq_ok h
    exact List.forall_mem_cons.mpr ⟨readConstraint_wellFormed hc, ih hr⟩
  | case3 =>
    obtain ⟨rfl, -⟩ := Prod.mk.inj (Except.ok.inj h)
    simp

/-- The text of a token, as a constraint. -/
theorem Constraint.wellFormed_text {v : Expected} (h : v.WellFormed) :
    Constraint.WellFormed ⟨Token.textName, v⟩ := by
  have hne : Token.textName.toList ≠ [] := by decide
  have hname : Token.textName.toList.all (!endsName ·) = true := by decide
  exact ⟨hne, by simpa using hname, h⟩

/-- A test of a token can be written down, with its text and its constraints. -/
theorem readTokenTest_wellFormed {a b : Cursor} {t : TokenTest}
    (h : readTokenTest a = .ok (t, b)) : t.WellFormed := by
  unfold readTokenTest at h
  dsimp only at h
  split at h
  · cases h
  · split at h
    · split at h
      · cases h
      · rename_i hv
        obtain ⟨cs, hr, rfl⟩ := Reading.map_eq_ok h
        refine List.forall_mem_cons.mpr ⟨?_, readConstraints_wellFormed hr⟩
        exact Constraint.wellFormed_text (readExpected_wellFormed hv)
    · obtain ⟨cs, hr, rfl⟩ := Reading.map_eq_ok h
      exact readConstraints_wellFormed hr

/-! ## Quantifiers -/

/-- A span passes the check only if it admits a repetition and its bounds are in order. -/
theorem checkedSpan_wellFormed {start : Nat} {min : UInt32} {max : Option UInt32} {s : Span}
    (h : checkedSpan start min max = .ok s) : s.WellFormed := by
  unfold checkedSpan at h
  split at h
  · cases h
  · rename_i hne
    split at h
    · cases h
    · rename_i hle
      obtain rfl := Except.ok.inj h
      refine ⟨hne, fun m hm => ?_⟩
      obtain rfl : max = some m := hm
      simpa using hle

/-- The bounds are checked when the brace is closed. -/
theorem readRangeEnd_wellFormed {start : Nat} {min : UInt32} {max : Option UInt32} {a b : Cursor}
    {s : Span} (h : readRangeEnd start min max a = .ok (s, b)) : s.WellFormed := by
  unfold readRangeEnd at h
  split at h
  · obtain ⟨s', hs, h⟩ := Graph.map_eq_ok h
    obtain ⟨rfl, -⟩ := Prod.mk.inj h
    exact checkedSpan_wellFormed hs
  · cases h
  · cases h

/-- A range that is read has a span that can be written down. -/
theorem readRange_wellFormed {start : Nat} {a b : Cursor} {s : Span}
    (h : readRange start a = .ok (s, b)) : s.WellFormed := by
  unfold readRange at h
  split at h
  · cases h
  · split at h
    · split at h
      · cases h
      · exact readRangeEnd_wellFormed h
    · split at h
      · exact readRangeEnd_wellFormed h
      · cases h
    · cases h
    · cases h

/-- So has every quantifier. Those of one character have spans that always can. -/
theorem readQuantifier_wellFormed {c : Char} {cs : List Char} {i : Nat} {q : Quantifier}
    {b : Cursor} (h : readQuantifier c cs i = .ok (q, b)) : q.span.WellFormed := by
  unfold readQuantifier at h
  split at h
  case h_4 =>
    obtain ⟨s, hr, rfl⟩ := Reading.map_eq_ok h
    exact readRange_wellFormed hr
  all_goals
    obtain ⟨rfl, -⟩ := Prod.mk.inj (Except.ok.inj h)
    constructor <;> simp [Quantifier.span]

/-! ## States -/

namespace Element

@[simp] theorem negated_zero (e : Element) : e.negated 0 = e := rfl

theorem isRepetition_negated {n : Nat} {e : Element} (h : e.isRepetition = false) :
    (e.negated n).isRepetition = false := by
  cases n with
  | zero => exact h
  | succ n => rfl

/-- Negations may be put in front of an element where there is room for them. -/
theorem WellFormed.negated {n depth : Nat} {e : Element} (hr : e.isRepetition = false)
    (h : e.WellFormed (depth + n)) (hd : depth + n ≤ maxDepth) :
    (e.negated n).WellFormed depth := by
  induction n generalizing depth with
  | zero => exact h
  | succ n ih =>
    refine .negation (by omega) (isRepetition_negated hr) (ih ?_ (by omega))
    rwa [Nat.add_right_comm]

end Element

/-- A bracket around elements can be written down one level above them. -/
theorem Bracket.wellFormed_element {b : Bracket} {depth : Nat} {es : List Element}
    (hd : depth < maxDepth) (hne : es ≠ []) (h : ∀ e ∈ es, e.WellFormed (depth + 1)) :
    (b.element es).WellFormed depth := by
  cases b with
  | group => exact .group hd hne h
  | alternation => exact .alternation hd hne h

theorem Bracket.isRepetition_element (b : Bracket) (es : List Element) :
    (b.element es).isRepetition = false := by
  cases b <;> rfl

/-- How deep an element is nested inside of open brackets. -/
def nesting (frames : List Frame) : Nat :=
  total (frames.map (·.negations + 1))

theorem nesting_cons (f : Frame) (frames : List Frame) :
    nesting (f :: frames) = nesting frames + f.negations + 1 := by
  simp [nesting]
  omega

/-- The elements before every open bracket can be written down there, and there is room for the
bracket. -/
def FramesWellFormed : List Frame → Prop
  | [] => True
  | f :: frames =>
    (∀ e ∈ f.before, e.WellFormed (nesting frames)) ∧ nesting (f :: frames) ≤ maxDepth ∧
      FramesWellFormed frames

namespace ParseState

/-- The elements read so far can be written down where they stand. -/
structure WellFormed (s : ParseState) : Prop where
  frames : FramesWellFormed s.frames
  settled : ∀ e ∈ s.settled, e.WellFormed (nesting s.frames)
  complete : ∀ e, s.mode = .complete e → e.isRepetition = false
  depth_le : s.depth ≤ maxDepth

theorem wellFormed_start : WellFormed {} where
  frames := trivial
  settled := by simp [ParseState.settled]
  complete := by simp
  depth_le := Nat.zero_le _

variable {s s' s'' : ParseState} {b : Bracket} {i : Nat}

/-- An element that fits at the depth of the state is read, under the negations before it. -/
theorem WellFormed.push {e : Element} (h : s.WellFormed) (hr : e.isRepetition = false)
    (he : e.WellFormed s.depth) : (s.push e).WellFormed where
  frames := h.frames
  settled := List.forall_mem_cons.mpr ⟨.negated hr he h.depth_le, h.settled⟩
  complete := by
    intro _ hm
    obtain rfl := Mode.complete.inj hm
    exact Element.isRepetition_negated hr
  depth_le := Nat.le_trans (Nat.le_add_right _ _) h.depth_le

/-- The reader goes deeper only where the limit on the depth is not reached. -/
theorem nest_eq_ok (h : s.nest s' i = .ok s'') : s.depth ≠ maxDepth ∧ s' = s'' := by
  unfold nest at h
  split at h
  · cases h
  · exact ⟨‹_›, Except.ok.inj h⟩

/-- A negation takes one level of the depth. -/
theorem WellFormed.negate (h : s.WellFormed) (hd : s.depth ≠ maxDepth) :
    (s.negate i).WellFormed where
  frames := h.frames
  settled := h.settled
  complete := by
    intro e he
    cases he
  depth_le := Nat.lt_of_le_of_ne h.depth_le hd

/-- An open bracket takes one level too. Its frame keeps the negations before it. -/
theorem WellFormed.enter (h : s.WellFormed) (hd : s.depth ≠ maxDepth) :
    (s.enter b i).WellFormed := by
  have hle : nesting (s.enter b i).frames ≤ maxDepth := by
    rw [ParseState.enter, nesting_cons]
    exact Nat.lt_of_le_of_ne h.depth_le hd
  constructor
  · exact ⟨h.settled, hle, h.frames⟩
  · simp [ParseState.settled, ParseState.enter]
  · intro e he
    cases he
  · exact hle

/-- A bracket that is closed is an element of what is around it. -/
theorem WellFormed.leave (h : s.WellFormed) (hl : s.leave b i = .ok s') : s'.WellFormed := by
  unfold ParseState.leave at hl
  split at hl
  · cases hl
  · rename_i f frames hf
    split at hl
    · cases hl
    · split at hl
      · cases hl
      · rename_i hne
        obtain rfl := Except.ok.inj hl
        have hfr := h.frames
        have hs := h.settled
        rw [hf] at hfr hs
        obtain ⟨hbefore, hd, hrest⟩ := hfr
        rw [nesting_cons] at hd hs
        have hb : (b.element s.settled.reverse).WellFormed (nesting frames + f.negations) :=
          Bracket.wellFormed_element hd (by simpa using hne) (by simpa using hs)
        have hr := Bracket.isRepetition_element b s.settled.reverse
        constructor
        · exact hrest
        · exact List.forall_mem_cons.mpr ⟨.negated hr hb (Nat.le_of_lt hd), hbefore⟩
        · intro _ hm
          obtain rfl := Mode.complete.inj hm
          exact Element.isRepetition_negated hr
        · exact Nat.le_trans (Nat.le_add_right _ _) (Nat.le_of_lt hd)

/-- A state in which the elements are settled and none of them can be quantified any more. -/
theorem WellFormed.ready {elements : List Element} (h : s.WellFormed)
    (he : ∀ e ∈ elements, e.WellFormed (nesting s.frames)) :
    WellFormed { s with elements, mode := .ready } where
  frames := h.frames
  settled := he
  complete := by simp
  depth_le := Nat.le_trans (Nat.le_add_right _ _) h.depth_le

end ParseState

/-! ## Steps and whole patterns -/

variable {s s' : ParseState} {c : Char} {cs : List Char} {i : Nat} {b : Cursor}

/-- Where an element is due, a bracket, a negation or a whole element is read. -/
theorem stepElement_wellFormed (hs : s.WellFormed) (h : stepElement s c cs i = .ok (s', b)) :
    s'.WellFormed := by
  unfold stepElement at h
  dsimp only at h
  split at h
  case h_1 | h_2 | h_3 =>
    obtain ⟨_, hn, h⟩ := Graph.map_eq_ok h
    obtain ⟨hd, rfl⟩ := ParseState.nest_eq_ok hn
    obtain ⟨rfl, -⟩ := Prod.mk.inj h
    first
      | exact hs.negate hd
      | exact hs.enter hd
  case h_4 | h_5 =>
    obtain ⟨rfl, -⟩ := Prod.mk.inj (Except.ok.inj h)
    exact hs.push rfl (.anchor _)
  case h_6 =>
    obtain ⟨t, -, rfl⟩ := Reading.map_eq_ok h
    refine hs.push rfl (.token ?_)
    exact List.forall_mem_singleton.mpr (Constraint.wellFormed_text trivial)
  case h_7 =>
    obtain ⟨r, hr, rfl⟩ := Reading.map_eq_ok h
    refine hs.push rfl (.token ?_)
    exact List.forall_mem_singleton.mpr (Constraint.wellFormed_text (readRegex_wellFormed hr))
  case h_8 =>
    split at h
    · cases h
    · obtain ⟨t, ht, rfl⟩ := Reading.map_eq_ok h
      exact hs.push rfl (.token (readTokenTest_wellFormed ht))

/-- Between elements there may also be a blank, or a bracket may be closed. -/
theorem stepBetween_wellFormed (hs : s.WellFormed) (h : stepBetween s c cs i = .ok (s', b)) :
    s'.WellFormed := by
  unfold stepBetween at h
  split at h
  · obtain ⟨rfl, -⟩ := Prod.mk.inj (Except.ok.inj h)
    exact hs.ready hs.settled
  · split at h
    · obtain ⟨_, hl, h⟩ := Graph.map_eq_ok h
      obtain ⟨rfl, -⟩ := Prod.mk.inj h
      exact hs.leave hl
    · exact stepElement_wellFormed hs h

/-- A step keeps a state well formed. -/
theorem parseStep_wellFormed (hs : s.WellFormed) (h : parseStep s c cs i = .ok (s', b)) :
    s'.WellFormed := by
  unfold parseStep at h
  split at h
  · split at h
    · cases h
    · exact stepElement_wellFormed hs h
  · rename_i e he
    split at h
    · obtain ⟨q, hq, rfl⟩ := Reading.map_eq_ok h
      have hsettled := hs.settled
      rw [ParseState.settled, he] at hsettled
      obtain ⟨hwf, hrest⟩ := List.forall_mem_cons.mp hsettled
      refine hs.ready (List.forall_mem_cons.mpr ⟨?_, hrest⟩)
      exact .repetition (hs.complete e he) hwf (readQuantifier_wellFormed hq)
    · exact stepBetween_wellFormed hs h
  · exact stepBetween_wellFormed hs h

/-- By induction on the steps: the state stays well formed, and at the end no bracket is open. -/
theorem parseFrom_wellFormed {a : Cursor} {es : List Element} (hs : s.WellFormed)
    (h : parseFrom s a = .ok es) : es ≠ [] ∧ ∀ e ∈ es, e.WellFormed 0 := by
  fun_induction parseFrom s a with
  | case1 s a _ =>
    unfold ParseState.finish at h
    split at h
    · cases h
    · cases h
    · rename_i hf _
      split at h
      · cases h
      · rename_i hne
        obtain rfl := Except.ok.inj h
        have hsettled := hs.settled
        rw [hf] at hsettled
        exact ⟨by simpa using hne, fun e he => hsettled e (List.mem_reverse.mp he)⟩
  | case2 => cases h
  | case3 s a c cs _ s' b hstep ih => exact ih (parseStep_wellFormed hs hstep) h

/-- **The elements of a pattern** can be written down, and there is at least one. -/
theorem parse_wellFormed {source : String} {es : List Element} (h : parse source = .ok es) :
    es ≠ [] ∧ ∀ e ∈ es, e.WellFormed 0 :=
  parseFrom_wellFormed ParseState.wellFormed_start h

end Motif.Pattern
