import Motif.Pattern.Offsets
import Motif.Proofs.Notation.RoundTrip

/-!
# What can be written and what is read (specification §4.1, E3)

The trees that patterns stand for are exactly the well-formed ones, as far as it does not matter
where their regular expressions stand. Where they do stand is what the tree says: the expressions of
a tree are found in the text of the pattern one after the other, each at the byte index that the
tree gives it (`Placed`).

* `parseStep_adds`: what a step reads are the expressions that it adds to a state.
* **`parse_placed`**: the expressions of a pattern stand at their places.
* **`parse_image`**: well-formed trees, and no others, are read.
-/

namespace Motif.Pattern

/-! ## Expressions and their places -/

/-- An expression as it stands in a pattern, from its opening slash to its last flag. -/
def RegexLiteral.written (r : RegexLiteral) : List Char :=
  '/' :: (r.source.toList.flatMap slashedChar ++ '/' :: r.flags.toList)

/-- The expression that a constraint asks for, if any. -/
def Expected.literals : Expected → List RegexLiteral
  | regex r => [r]
  | text _ | present => []

/-- The expressions of a test, from left to right. -/
def TokenTest.literals (t : TokenTest) : List RegexLiteral :=
  t.constraints.flatMap (·.value.literals)

namespace Element

mutual

/-- The expressions of an element, from left to right. -/
def literals : Element → List RegexLiteral
  | token t => t.literals
  | anchor _ => []
  | group es | alternation es => literalsAll es
  | negation e => e.literals
  | repetition e _ => e.literals

/-- The expressions of elements, from left to right. -/
def literalsAll : List Element → List RegexLiteral
  | [] => []
  | e :: es => e.literals ++ literalsAll es

end

theorem literalsAll_append (es fs : List Element) :
    literalsAll (es ++ fs) = literalsAll es ++ literalsAll fs := by
  induction es with
  | nil => rfl
  | cons e es ih => rw [List.cons_append, literalsAll, literalsAll, ih, List.append_assoc]

@[simp] theorem literals_negated (n : Nat) (e : Element) : (e.negated n).literals = e.literals := by
  induction n with
  | zero => rfl
  | succ n ih => exact ih

end Element

/-- A bracket has the literals of its elements. -/
theorem Bracket.literals_element (b : Bracket) (es : List Element) :
    (b.element es).literals = Element.literalsAll es := by
  cases b <;> rfl

/-- Expressions stand in a text one after the other, each at its index. The first character of the
text has the byte index `i`. -/
def Placed (i : Nat) (cs : List Char) : List RegexLiteral → Prop
  | [] => True
  | r :: rs => ∃ before rest, cs = before ++ (r.written ++ rest) ∧ r.index = i + byteLength before ∧
      Placed (r.index + byteLength r.written) rest rs

/-- Literals keep their places when a text is put in front, moved by its bytes. -/
theorem Placed.prepend {i : Nat} {cs ds : List Char} {rs : List RegexLiteral}
    (h : Placed (i + byteLength cs) ds rs) : Placed i (cs ++ ds) rs := by
  cases rs with
  | nil => trivial
  | cons r rs =>
    obtain ⟨before, rest, rfl, hi, hrest⟩ := h
    refine ⟨cs ++ before, rest, by simp, ?_, hrest⟩
    rw [hi, byteLength_append, Nat.add_assoc]

/-- Literals of two texts in a row. -/
theorem Placed.append {i : Nat} {cs ds : List Char} {rs ss : List RegexLiteral}
    (hr : Placed i cs rs) (hs : Placed (i + byteLength cs) ds ss) :
    Placed i (cs ++ ds) (rs ++ ss) := by
  induction rs generalizing i cs with
  | nil => exact hs.prepend
  | cons r rs ih =>
    obtain ⟨before, rest, rfl, hi, hrest⟩ := hr
    refine ⟨before, rest ++ ds, by simp, hi, ih hrest ?_⟩
    simpa [hi, Nat.add_assoc] using hs

/-! ## Expressions that are read -/

/-- `b` is `a` moved over some characters in which the expressions stand. -/
def Cursor.Adds (a b : Cursor) (rs : List RegexLiteral) : Prop :=
  ∃ used, a.rest = used ++ b.rest ∧ b.index = a.index + byteLength used ∧ Placed a.index used rs

/-- Where no literal is read, none is added. -/
theorem Cursor.Reaches.adds {a b : Cursor} : a.Reaches b → a.Adds b []
  | ⟨used, hr, hi⟩ => ⟨used, hr, hi, trivial⟩

/-- What two steps in a row add is added in the order of the steps. -/
theorem Cursor.Adds.trans {a b c : Cursor} {rs ss : List RegexLiteral} :
    a.Adds b rs → b.Adds c ss → a.Adds c (rs ++ ss)
  | ⟨u, hu, hi, hr⟩, ⟨v, hv, hj, hs⟩ =>
    ⟨u ++ v, by simp [hu, hv], by simp [hi, hj, Nat.add_assoc], hr.append (hi ▸ hs)⟩

theorem Cursor.Reaches.trans_adds {a b c : Cursor} {rs : List RegexLiteral} (h : a.Reaches b)
    (h' : b.Adds c rs) : a.Adds c rs :=
  h.adds.trans h'

/-- A source is read off what is written for it, up to the closing slash. -/
theorem readSource_eq {start : Nat} {cs : List Char} {i : Nat} {s : List Char} {a : Cursor}
    (h : readSource start cs i = .ok (s, a)) : cs = s.flatMap slashedChar ++ '/' :: a.rest := by
  fun_induction readSource start cs i generalizing s a with
  | case1 => cases h
  | case2 cs i =>
    obtain ⟨rfl, rfl⟩ := Prod.mk.inj (Except.ok.inj h)
    rfl
  | case3 => cases h
  | case4 cs i ih =>
    obtain ⟨s', hr, rfl⟩ := Reading.map_eq_ok h
    rw [ih hr]
    rfl
  | case5 e cs i he ih =>
    obtain ⟨s', hr, rfl⟩ := Reading.map_eq_ok h
    have hslashed : slashedChar e = [e] := by simp [slashedChar]
    rw [ih hr, List.flatMap_cons, List.flatMap_cons, hslashed]
    rfl
  | case6 c cs i hc _ _ _ ih =>
    obtain ⟨s', hr, rfl⟩ := Reading.map_eq_ok h
    have hslashed : slashedChar c = [c] := by simp_all [slashedChar]
    rw [ih hr, List.flatMap_cons, hslashed]
    rfl

/-- The flags are the text that is read for them. -/
theorem readFlags_eq {seen cs : List Char} {i : Nat} {s : List Char} {a : Cursor}
    (h : readFlags seen cs i = .ok (s, a)) : cs = s ++ a.rest := by
  fun_induction readFlags seen cs i generalizing s a with
  | case1 | case4 =>
    obtain ⟨rfl, rfl⟩ := Prod.mk.inj (Except.ok.inj h)
    rfl
  | case2 _ c cs i _ _ ih =>
    obtain ⟨s', hr, rfl⟩ := Reading.map_eq_ok h
    exact congrArg (c :: ·) (ih hr)
  | case3 => cases h

/-- A literal stands in the text as it is written, from the slash that it is indexed by. -/
theorem readRegex_eq {start : Nat} {cs : List Char} {i : Nat} {r : RegexLiteral} {a : Cursor}
    (h : readRegex start cs i = .ok (r, a)) :
    r.index = start ∧ '/' :: cs = r.written ++ a.rest := by
  unfold readRegex at h
  split at h
  · cases h
  · rename_i hs
    obtain ⟨flags, hf, rfl⟩ := Reading.map_eq_ok h
    refine ⟨rfl, ?_⟩
    rw [readSource_eq hs, readFlags_eq hf]
    simp [RegexLiteral.written]

/-- **An expression stands where reading it began.** -/
theorem readRegex_adds {a b : Cursor} {cs : List Char} {r : RegexLiteral} (ha : a.rest = '/' :: cs)
    (h : readRegex a.index cs (a.index + 1) = .ok (r, b)) : a.Adds b [r] := by
  have hp : a.Passes b := (Cursor.passes_past ha).trans_reaches (readRegex_passes h).reaches
  obtain ⟨used, hu, hi⟩ := hp.reaches
  obtain ⟨hindex, hw⟩ := readRegex_eq h
  obtain rfl : used = r.written := by
    rw [ha, hw] at hu
    exact (List.append_cancel_right hu).symm
  exact ⟨r.written, hu, hi, [], [], by simp, hindex, trivial⟩

/-! ## Tests -/

/-- An expected value adds its literal, if it is one. -/
theorem readExpected_adds {name : String} {nameAt : Nat} {a b : Cursor} {v : Expected}
    (h : readExpected name nameAt a = .ok (v, b)) : a.Adds b v.literals := by
  have hreach := readExpected_reaches h
  unfold readExpected at h
  split at h
  · obtain ⟨s, -, rfl⟩ := Reading.map_eq_ok h
    exact hreach.adds
  · rename_i hr
    obtain ⟨r, hread, rfl⟩ := Reading.map_eq_ok h
    exact readRegex_adds hr hread
  · dsimp only at h
    split at h
    · cases h
    · obtain ⟨rfl, -⟩ := Prod.mk.inj (Except.ok.inj h)
      exact hreach.adds

theorem readConstraint_adds {a b : Cursor} {c : Constraint} (h : readConstraint a = .ok (c, b)) :
    a.Adds b c.value.literals := by
  have hreach := (readConstraint_passes h).reaches
  unfold readConstraint at h
  dsimp only at h
  split at h
  · cases h
  · split at h
    · rename_i hr
      obtain ⟨v, hv, rfl⟩ := Reading.map_eq_ok h
      refine (Cursor.reaches_dropWhile (!endsName ·) a).trans_adds ?_
      exact (Cursor.passes_past hr).reaches.trans_adds (readExpected_adds hv)
    · obtain ⟨rfl, -⟩ := Prod.mk.inj (Except.ok.inj h)
      exact hreach.adds

/-- Constraints add the literals of their values, in order. -/
theorem readConstraints_adds {a b : Cursor} {cs : List Constraint}
    (h : readConstraints a = .ok (cs, b)) : a.Adds b (cs.flatMap (·.value.literals)) := by
  fun_induction readConstraints a generalizing cs b with
  | case1 => cases h
  | case2 a _ hr _ _ hc ih =>
    obtain ⟨cs', hcs, rfl⟩ := Reading.map_eq_ok h
    rw [List.flatMap_cons]
    exact ((Cursor.passes_past hr).reaches.trans_adds (readConstraint_adds hc)).trans (ih hcs)
  | case3 =>
    obtain ⟨rfl, rfl⟩ := Prod.mk.inj (Except.ok.inj h)
    exact (Cursor.Reaches.refl _).adds

/-- A test adds the literals of its text and of its constraints. -/
theorem readTokenTest_adds {a b : Cursor} {t : TokenTest} (h : readTokenTest a = .ok (t, b)) :
    a.Adds b t.literals := by
  have hkeyword := Cursor.reaches_dropWhile (!endsName ·) a
  unfold readTokenTest at h
  dsimp only at h
  split at h
  · cases h
  · split at h
    · rename_i hr
      split at h
      · cases h
      · rename_i hv
        obtain ⟨cs, hcs, rfl⟩ := Reading.map_eq_ok h
        refine hkeyword.trans_adds ((Cursor.passes_past hr).reaches.trans_adds ?_)
        exact (readExpected_adds hv).trans (readConstraints_adds hcs)
    · obtain ⟨cs, hcs, rfl⟩ := Reading.map_eq_ok h
      exact hkeyword.trans_adds (readConstraints_adds hcs)

/-! ## States -/

namespace ParseState

/-- The expressions read so far: those before each open bracket, from the outside in, and those
since the innermost. -/
def literals (s : ParseState) : List RegexLiteral :=
  (s.frames.reverse.flatMap fun f => Element.literalsAll f.before.reverse) ++
    Element.literalsAll s.settled.reverse

variable {s s' s'' : ParseState} {b : Bracket} {i : Nat}

/-- A state has the literals of an element after those it had. -/
theorem literals_push (s : ParseState) (e : Element) :
    (s.push e).literals = s.literals ++ e.literals := by
  have hsettled : (s.push e).settled = e.negated s.waiting :: s.settled := rfl
  rw [literals, hsettled, List.reverse_cons, Element.literalsAll_append, ← List.append_assoc]
  simp [Element.literalsAll, literals, push]

/-- Opening a bracket keeps the literals, of which the frame has those before it. -/
theorem literals_enter (s : ParseState) (b : Bracket) (i : Nat) :
    (s.enter b i).literals = s.literals := by
  simp [literals, enter, settled, Element.literalsAll]

/-- Closing one keeps them too, and their order. -/
theorem literals_leave (h : s.leave b i = .ok s') : s'.literals = s.literals := by
  unfold leave at h
  split at h
  · cases h
  · rename_i f frames hf
    split at h
    · cases h
    · split at h
      · cases h
      · obtain rfl := Except.ok.inj h
        show _ ++ Element.literalsAll (List.reverse (_ :: f.before)) = _
        rw [List.reverse_cons, Element.literalsAll_append, literals, hf]
        simp [Element.literalsAll, Bracket.literals_element]

end ParseState

/-! ## Steps and whole patterns -/

variable {s s' : ParseState} {c : Char} {cs : List Char} {i : Nat} {b : Cursor}

/-- Where an element is due, a step adds the literals of what it reads. -/
theorem stepElement_adds (h : stepElement s c cs i = .ok (s', b)) :
    ∃ rs, s'.literals = s.literals ++ rs ∧ Cursor.Adds ⟨c :: cs, i⟩ b rs := by
  have hnone := (stepElement_passes h).reaches.adds
  unfold stepElement at h
  dsimp only at h
  split at h
  case h_1 | h_2 | h_3 =>
    obtain ⟨_, hn, h⟩ := Graph.map_eq_ok h
    obtain ⟨-, rfl⟩ := ParseState.nest_eq_ok hn
    obtain ⟨rfl, -⟩ := Prod.mk.inj h
    refine ⟨[], ?_, hnone⟩
    rw [List.append_nil]
    first
      | rfl
      | exact s.literals_enter _ _
  case h_4 | h_5 =>
    obtain ⟨rfl, -⟩ := Prod.mk.inj (Except.ok.inj h)
    exact ⟨[], s.literals_push _, hnone⟩
  case h_6 =>
    obtain ⟨t, -, rfl⟩ := Reading.map_eq_ok h
    exact ⟨[], s.literals_push _, hnone⟩
  case h_7 =>
    obtain ⟨r, hr, rfl⟩ := Reading.map_eq_ok h
    exact ⟨[r], s.literals_push _, readRegex_adds rfl hr⟩
  case h_8 =>
    split at h
    · cases h
    · obtain ⟨t, ht, rfl⟩ := Reading.map_eq_ok h
      exact ⟨t.literals, s.literals_push _, readTokenTest_adds ht⟩

theorem stepBetween_adds (h : stepBetween s c cs i = .ok (s', b)) :
    ∃ rs, s'.literals = s.literals ++ rs ∧ Cursor.Adds ⟨c :: cs, i⟩ b rs := by
  have hnone := (stepBetween_passes h).reaches.adds
  unfold stepBetween at h
  split at h
  · obtain ⟨rfl, -⟩ := Prod.mk.inj (Except.ok.inj h)
    exact ⟨[], (List.append_nil _).symm, hnone⟩
  · split at h
    · obtain ⟨_, hl, h⟩ := Graph.map_eq_ok h
      obtain ⟨rfl, -⟩ := Prod.mk.inj h
      exact ⟨[], by rw [List.append_nil, ParseState.literals_leave hl], hnone⟩
    · exact stepElement_adds h

/-- The expressions that a step adds to a state are those that it reads. -/
theorem parseStep_adds (h : parseStep s c cs i = .ok (s', b)) :
    ∃ rs, s'.literals = s.literals ++ rs ∧ Cursor.Adds ⟨c :: cs, i⟩ b rs := by
  have hnone := (parseStep_passes h).reaches.adds
  unfold parseStep at h
  split at h
  · split at h
    · cases h
    · exact stepElement_adds h
  · rename_i e he
    split at h
    · -- a quantifier wraps the element before it
      obtain ⟨q, -, rfl⟩ := Reading.map_eq_ok h
      refine ⟨[], ?_, hnone⟩
      simp [ParseState.literals, ParseState.settled, he, Element.literalsAll_append,
        Element.literalsAll, Element.literals]
    · exact stepBetween_adds h
  · exact stepBetween_adds h

/-- By induction on the steps. -/
theorem parseFrom_adds {a : Cursor} {es : List Element} (h : parseFrom s a = .ok es) :
    ∃ rs, Element.literalsAll es = s.literals ++ rs ∧ Placed a.index a.rest rs := by
  fun_induction parseFrom s a with
  | case1 s a _ =>
    unfold ParseState.finish at h
    split at h
    · cases h
    · cases h
    · rename_i hf _
      split at h
      · cases h
      · obtain rfl := Except.ok.inj h
        exact ⟨[], by simp [ParseState.literals, hf], trivial⟩
  | case2 => cases h
  | case3 s a c cs hr s' b hstep ih =>
    obtain ⟨rs, hrs, used, hused, hindex, hplaced⟩ := parseStep_adds hstep
    obtain ⟨ss, hss, hrest⟩ := ih h
    refine ⟨rs ++ ss, by rw [hss, hrs, List.append_assoc], ?_⟩
    have hrest' : Placed (a.index + byteLength used) b.rest ss := hindex ▸ hrest
    have happend := hplaced.append hrest'
    rwa [← hused, ← hr] at happend

/-- **The expressions of a pattern** stand in its text one after the other, where the tree says. -/
theorem parse_placed {source : String} {es : List Element} (h : parse source = .ok es) :
    Placed 0 source.toList (Element.literalsAll es) := by
  obtain ⟨rs, hrs, hplaced⟩ := parseFrom_adds h
  rw [hrs]
  exact hplaced

/-- **What is read is what can be written.** The tree of a pattern is well formed, and each of its
expressions stands in the text at the byte index that the tree gives it. And there is a text for
every well-formed tree, but for the indices of its expressions. -/
theorem parse_image :
    (∀ (source : String) (es : List Element), parse source = .ok es →
      (es ≠ [] ∧ ∀ e ∈ es, e.WellFormed 0) ∧ Placed 0 source.toList (Element.literalsAll es)) ∧
    ∀ es : List Element, es ≠ [] → (∀ e ∈ es, e.WellFormed 0) →
      ∃ source es', parse source = .ok es' ∧
        Element.unindexedAll es' = Element.unindexedAll es := by
  constructor
  · intro source es h
    exact ⟨parse_wellFormed h, parse_placed h⟩
  · intro es hne hes
    obtain ⟨es', hes', h⟩ := parse_texts hne hes
    exact ⟨_, es', h, hes'⟩

/-- A text that looks like an expression, and a negated expression with a flag after it. -/
theorem parse_image_flag :
    (∃ es, parse "'/a/' !/a\\/b/i" = .ok es ∧ (∀ e ∈ es, e.WellFormed 0) ∧
      Placed 0 "'/a/' !/a\\/b/i".toList [⟨"a/b", "i", 7⟩]) ∧
    ∃ source es', parse source = .ok es' ∧
      Element.unindexedAll es' =
        Element.unindexedAll [.anchor .start, .group [.anchor .finish]] := by
  constructor
  · have h : parse "'/a/' !/a\\/b/i" = .ok [.token ⟨none, [⟨"text", .text "/a/"⟩]⟩,
        .negation (.token ⟨none, [⟨"text", .regex ⟨"a/b", "i", 7⟩⟩]⟩)] := by cbv
    obtain ⟨⟨-, hes⟩, hplaced⟩ := parse_image.1 _ _ h
    exact ⟨_, h, hes, hplaced⟩
  · refine parse_image.2 _ (List.cons_ne_nil _ _) ?_
    refine List.forall_mem_cons.mpr ⟨.anchor _, List.forall_mem_singleton.mpr ?_⟩
    exact .group (by decide) (List.cons_ne_nil _ _) (List.forall_mem_singleton.mpr (.anchor _))

end Motif.Pattern
