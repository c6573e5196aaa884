import Mathlib
import Motif.Proofs.Notation.Literal
import Motif.Proofs.Notation.Sound
import Motif.Regex.Standard

/-!
# Patterns as text and back (specification E5)

The text of a well-formed tree is read back as that tree, but for the places of expressions. Reading
the text of an element leads from any state in which an element may begin to the state with that
element pushed, whatever comes after it, so elements can be taken one at a time.

* `readsText`: the text of an element, in the middle of a pattern.
* **`parse_texts`**: the text of a whole pattern.
* **`compile_text`**: a compiled pattern, written and compiled again.
-/

namespace Motif.Pattern

/-! ## Steps -/

variable {s s' : ParseState} {c : Char} {cs rest : List Char} {i j : Nat}

theorem parseFrom_nil (s : ParseState) (i : Nat) : parseFrom s ⟨[], i⟩ = s.finish := by
  rw [parseFrom]

theorem parseFrom_cons {b : Cursor} (h : parseStep s c cs i = .ok (s', b)) :
    parseFrom s ⟨c :: cs, i⟩ = parseFrom s' b := by
  rw [parseFrom]
  split
  · rename_i hr
    cases hr
  · rename_i hr
    obtain ⟨rfl, rfl⟩ := List.cons_eq_cons.mp hr
    split
    · rename_i hs
      cases hs.symm.trans h
    · rename_i hs
      obtain ⟨rfl, rfl⟩ := Prod.mk.inj (Except.ok.inj (hs.symm.trans h))
      rfl

/-- The characters that begin a quantifier. -/
theorem eq_of_isQuantifier (h : isQuantifier c = true) :
    c = '?' ∨ c = '*' ∨ c = '+' ∨ c = '\x7b' := by
  simpa [isQuantifier] using h

/-- A closing character closes brackets of one sort. -/
theorem eq_of_closing? {b : Bracket} (h : closing? c = some b) : c = b.closing := by
  unfold closing? at h
  split at h
  · obtain rfl := Option.some.inj h
    rfl
  · obtain rfl := Option.some.inj h
    rfl
  · cases h

namespace ParseState

/-- The next element may begin at once: none has just ended. -/
def Begins (s : ParseState) : Prop :=
  ∀ e, s.mode ≠ .complete e

/-- No negation is waiting for its element. -/
def Idle (s : ParseState) : Prop :=
  ∀ n mark, s.mode ≠ .negating n mark

/-- A pattern that is finished has no open bracket and no negation that waits. -/
theorem finish_eq_ok {es : List Element} (h : s.finish = .ok es) :
    s.frames = [] ∧ s.Idle ∧ es = s.settled.reverse := by
  unfold finish at h
  split at h
  · cases h
  · cases h
  · rename_i hf hm
    split at h
    · cases h
    · exact ⟨hf, fun n mark hn => hm n mark hn, (Except.ok.inj h).symm⟩

/-- Where nothing is open and nothing waits, a pattern is what has been settled. -/
theorem finish_of_idle (h : s.Idle) (hf : s.frames = []) :
    s.finish = if s.settled = [] then .error .emptyPattern else .ok s.settled.reverse := by
  unfold ParseState.finish
  split
  · rename_i hm
    exact absurd hm (h _ _)
  · rename_i hfr _
    cases hf.symm.trans hfr
  · rfl

theorem depth_enter (s : ParseState) (b : Bracket) (i : Nat) :
    (s.enter b i).depth = s.depth + 1 :=
  nesting_cons _ _

/-- A negation that waits is put in front of the element that comes next. -/
theorem push_negate (s : ParseState) (e : Element) (i : Nat) :
    (s.negate i).push e = s.push (.negation e) := by
  have hcomm : ∀ n, e.negated (n + 1) = Element.negated n (.negation e) := by
    intro n
    induction n with
    | zero => rfl
    | succ n ih => exact congrArg Element.negation ih
  show ParseState.mk s.frames s.settled (.complete (e.negated (s.waiting + 1))) = _
  rw [hcomm]
  rfl

end ParseState

/-- Where an element begins, a step reads it. -/
theorem parseStep_of_begins (hs : s.Begins) (hb : Text.isBlank c = false)
    (hc : closing? c = none) : parseStep s c cs i = stepElement s c cs i := by
  unfold parseStep
  split
  · rw [hb, hc]
    rfl
  · rename_i hm
    exact absurd hm (hs _)
  · rw [stepBetween, hb, hc]
    rfl

/-- Where no quantifier follows, a step is one between elements. -/
theorem parseStep_of_idle (hs : s.Idle) (hq : isQuantifier c = false) :
    parseStep s c cs i = stepBetween s c cs i := by
  unfold parseStep
  split
  · rename_i hm
    exact absurd hm (hs _ _)
  · rw [hq]
    rfl
  · rfl

theorem stepElement_of_isAlpha (h : c.isAlpha = true) :
    stepElement s c cs i = (readTokenTest ⟨c :: cs, i⟩).map (s.push <| .token ·) := by
  unfold stepElement
  dsimp only
  split
  case h_8 =>
    have hq : isQuantifier c = false := by
      rw [Bool.eq_false_iff]
      intro hq
      have hall : ∀ d ∈ ['?', '*', '+', '\x7b'], d.isAlpha = false := by simp
      rw [hall c (by simpa [isQuantifier] using hq)] at h
      cases h
    rw [hq]
    rfl
  all_goals exact absurd h (by decide)

/-! ## Elements in their places -/

namespace ParseState

/-- `s'` is `s` after the elements `es`, which are all settled. -/
structure Reached (s : ParseState) (es : List Element) (s' : ParseState) : Prop where
  frames : s'.frames = s.frames
  settled : s'.settled = es.reverse ++ s.settled
  idle : s'.Idle

/-- An element that is pushed is the one that is reached, under the negations before it. -/
theorem reached_push (s : ParseState) (e : Element) :
    s.Reached [e.negated s.waiting] (s.push e) where
  frames := rfl
  settled := rfl
  idle := by
    intro n mark hm
    cases hm

/-- The closing bracket puts the elements since the opening one in their place. -/
theorem Reached.leave {b : Bracket} {es : List Element} (h : (s.enter b i).Reached es s')
    (hne : es ≠ []) (j : Nat) : s'.leave b j = .ok (s.push (b.element es)) := by
  have hsettled : s'.settled = es.reverse := by
    rw [h.settled]
    exact List.append_nil _
  unfold ParseState.leave
  rw [h.frames, hsettled, List.reverse_reverse]
  show (if b ≠ b then _ else if es.reverse = [] then _ else _) = _
  rw [if_neg (not_not_intro rfl), if_neg (by simpa using hne)]
  rfl

end ParseState

/-- An opening bracket is entered wherever there is room for it. -/
theorem parseFrom_opening (b : Bracket) (hs : s.Begins) (hd : s.depth < maxDepth) :
    parseFrom s ⟨b.opening :: cs, i⟩ = parseFrom (s.enter b i) (.past i b.opening cs) := by
  apply parseFrom_cons
  rw [parseStep_of_begins hs (by cases b <;> decide) (by cases b <;> rfl)]
  have hnest : s.nest (s.enter b i) i = .ok (s.enter b i) := if_neg (Nat.ne_of_lt hd)
  cases b with
  | group | alternation =>
    show (s.nest _ i).map _ = _
    rw [hnest]
    rfl

/-- A closing bracket is left with the elements since its opening one. -/
theorem parseFrom_closing {b : Bracket} {es : List Element} (h : (s.enter b i).Reached es s')
    (hne : es ≠ []) :
    parseFrom s' ⟨b.closing :: cs, j⟩ =
      parseFrom (s.push (b.element es)) (.past j b.closing cs) := by
  apply parseFrom_cons
  have hblank : Text.isBlank b.closing = false := by cases b <;> decide
  have hclosing : closing? b.closing = some b := by cases b <;> rfl
  rw [parseStep_of_idle h.idle (by cases b <;> decide), stepBetween, hblank, hclosing]
  show (s'.leave b j).map _ = _
  rw [h.leave hne]
  rfl

/-- A negation is waiting after its mark wherever there is room for it. -/
theorem parseFrom_mark (hs : s.Begins) (hd : s.depth < maxDepth) :
    parseFrom s ⟨'!' :: cs, i⟩ = parseFrom (s.negate i) (.past i '!' cs) := by
  apply parseFrom_cons
  have hnest : s.nest (s.negate i) i = .ok (s.negate i) := if_neg (Nat.ne_of_lt hd)
  rw [parseStep_of_begins hs (by decide) rfl]
  show (s.nest (s.negate i) i).map _ = _
  rw [hnest]
  rfl

/-! ## Elements -/

namespace ParseState

/-- From `s`, the text of an element is read as that element, but for places, before `rest`. Only a
repetition is more than what has been pushed. -/
def ReadsText (s : ParseState) (e : Element) (rest : List Char) (i : Nat) : Prop :=
  ∃ e' s' j, e'.unindexed = e.unindexed ∧ s.Reached [e'.negated s.waiting] s' ∧
    (e.isRepetition = false → s' = s.push e') ∧
    parseFrom s ⟨e.text.toList ++ rest, i⟩ = parseFrom s' ⟨rest, j⟩

/-- From `s`, the text of elements is read as those elements, but for places, before `rest`. -/
def ReadsTexts (s : ParseState) (es : List Element) (rest : List Char) (i : Nat) : Prop :=
  ∃ es' s' j, Element.unindexedAll es' = Element.unindexedAll es ∧ s.Reached es' s' ∧
    parseFrom s ⟨(Graph.spaced (Element.texts es)).toList ++ rest, i⟩ = parseFrom s' ⟨rest, j⟩

variable {e : Element}

/-- An element whose text is read in one step. -/
theorem readsText_of_push (e' : Element) (j : Nat) (he : e'.unindexed = e.unindexed)
    (h : parseFrom s ⟨e.text.toList ++ rest, i⟩ = parseFrom (s.push e') ⟨rest, j⟩) :
    s.ReadsText e rest i :=
  ⟨e', s.push e', j, he, s.reached_push e', fun _ => rfl, h⟩

/-- An element that can be quantified is read with the last step a push. -/
theorem ReadsText.push (h : s.ReadsText e rest i) (hrep : e.isRepetition = false) :
    ∃ e' j, e'.unindexed = e.unindexed ∧
      parseFrom s ⟨e.text.toList ++ rest, i⟩ = parseFrom (s.push e') ⟨rest, j⟩ := by
  obtain ⟨e', s', j, he', -, hpush, hgo⟩ := h
  obtain rfl := hpush hrep
  exact ⟨e', j, he', hgo⟩

end ParseState

/-- The text of a kind begins with a letter, so it is read as a test of a token. -/
theorem kindText_eq_cons (kind : Option Token.Kind) :
    ∃ c cs, (kindText kind).toList = c :: cs ∧ c.isAlpha = true ∧ Text.isBlank c = false ∧
      closing? c = none := by
  rcases kind with _ | kind
  · exact ⟨_, _, rfl, by decide⟩
  · cases kind <;> exact ⟨_, _, rfl, by decide⟩

/-- A test of a token is read from its text. -/
theorem readsText_token {t : TokenTest} (h : t.WellFormed) (hs : s.Begins) (hr : Stops rest) :
    s.ReadsText (.token t) rest i := by
  obtain ⟨t', ht', j, hread⟩ := reads_tokenTest h hr i
  obtain ⟨c, cs, hkind, halpha, hblank, hclosing⟩ := kindText_eq_cons t.kind
  have htext : ∃ ds, t.text.toList ++ rest = c :: ds := by
    rw [TokenTest.text, String.toList_append, hkind]
    exact ⟨_, rfl⟩
  obtain ⟨ds, htext⟩ := htext
  have hstep : parseStep s c ds i = .ok (s.push (.token t'), ⟨rest, j⟩) := by
    rw [parseStep_of_begins hs hblank hclosing, stepElement_of_isAlpha halpha, ← htext, hread]
    rfl
  refine ParseState.readsText_of_push (.token t') j (congrArg Element.token ht') ?_
  rw [Element.text, htext]
  exact parseFrom_cons hstep

theorem readsText_anchor (a : Sentinel) (hs : s.Begins) : s.ReadsText (.anchor a) rest i := by
  have hstep : ∃ c, (Element.anchor a).text.toList = [c] ∧
      parseStep s c rest i = .ok (s.push (.anchor a), .past i c rest) := by
    cases a with
    | start => exact ⟨'^', rfl, by rw [parseStep_of_begins hs (by decide) rfl]; rfl⟩
    | finish => exact ⟨'$', rfl, by rw [parseStep_of_begins hs (by decide) rfl]; rfl⟩
  obtain ⟨c, htext, hstep⟩ := hstep
  refine ParseState.readsText_of_push (.anchor a) (i + c.utf8Size) rfl ?_
  rw [htext]
  exact parseFrom_cons hstep

/-- Leaving indexes out leaves no element out. -/
theorem unindexedAll_ne_nil {es es' : List Element}
    (h : Element.unindexedAll es' = Element.unindexedAll es) (hne : es ≠ []) : es' ≠ [] := by
  rintro rfl
  cases es with
  | nil => exact hne rfl
  | cons e es => cases h

/-- A bracket is written as its elements between its two characters. -/
theorem text_bracket (b : Bracket) (es : List Element) :
    (b.element es).text.toList ++ rest =
      b.opening :: ((Graph.spaced (Element.texts es)).toList ++ b.closing :: rest) := by
  cases b <;> simp [Bracket.element, Element.text, Bracket.opening, Bracket.closing]

/-- Elements are read in brackets if they are read without. -/
theorem readsText_bracket {b : Bracket} {es : List Element} (hs : s.Begins)
    (hd : s.depth < maxDepth) (hne : es ≠ [])
    (hes : (s.enter b i).ReadsTexts es (b.closing :: rest) (i + b.opening.utf8Size)) :
    s.ReadsText (b.element es) rest i := by
  obtain ⟨es', s', j, hes', hs', hgo⟩ := hes
  have hsame : (b.element es').unindexed = (b.element es).unindexed := by
    cases b with
    | group => exact congrArg Element.group hes'
    | alternation => exact congrArg Element.alternation hes'
  refine ParseState.readsText_of_push (b.element es') (j + b.closing.utf8Size) hsame ?_
  calc
    parseFrom s ⟨(b.element es).text.toList ++ rest, i⟩
    _ = parseFrom s ⟨b.opening :: ((Graph.spaced (Element.texts es)).toList ++
          b.closing :: rest), i⟩ := by rw [text_bracket]
    _ = parseFrom s' ⟨b.closing :: rest, j⟩ := (parseFrom_opening b hs hd).trans hgo
    _ = parseFrom (s.push (b.element es')) ⟨rest, j + b.closing.utf8Size⟩ :=
      parseFrom_closing hs' (unindexedAll_ne_nil hes' hne)

/-- A negation is read from its mark and the element after it. -/
theorem readsText_negation {e : Element} (hs : s.Begins) (hd : s.depth < maxDepth)
    (hrep : e.isRepetition = false) (he : (s.negate i).ReadsText e rest (i + 1)) :
    s.ReadsText (.negation e) rest i := by
  obtain ⟨e', j, he', hgo⟩ := he.push hrep
  have htext : (Element.negation e).text.toList ++ rest = '!' :: (e.text.toList ++ rest) := by
    simp [Element.text]
  refine ParseState.readsText_of_push (.negation e') j (congrArg Element.negation he') ?_
  rw [htext, ← s.push_negate e' i]
  exact (parseFrom_mark hs hd).trans hgo

/-- A quantifier ends the test before it. -/
theorem stops_quantifier {q : Quantifier} (hq : q.span.WellFormed) (rest : List Char) :
    Stops (q.text.toList ++ rest) := by
  obtain ⟨c, cs, hcs, hc, -⟩ := reads_quantifier hq rest 0
  rw [hcs]
  intro d hd
  obtain rfl : c = d := Option.some.inj hd
  have hall : ∀ d ∈ ['?', '*', '+', '\x7b'], endsName d = true ∧ d ≠ '=' ∧ d ≠ ',' := by
    simp [endsName]
  exact hall c (by simpa [isQuantifier] using hc)

/-- A quantifier is read right after its element, if that is not under a negation. -/
theorem parseFrom_quantifier (e : Element) {q : Quantifier} (hq : q.span.WellFormed)
    (hw : s.waiting = 0) (rest : List Char) (i : Nat) :
    ∃ j, parseFrom (s.push e) ⟨q.text.toList ++ rest, i⟩ =
      parseFrom { s with elements := .repetition e q :: s.settled, mode := .ready } ⟨rest, j⟩ := by
  obtain ⟨c, cs, hcs, hc, j, hread⟩ := reads_quantifier hq rest i
  have hmode : (s.push e).mode = .complete e := by
    rw [ParseState.push, hw]
    rfl
  refine ⟨j, ?_⟩
  rw [hcs, List.cons_append]
  apply parseFrom_cons
  unfold parseStep
  rw [hmode]
  dsimp only
  rw [if_pos hc, hread]
  rfl

/-- A repetition is read from its body and the quantifier after it. -/
theorem readsText_repetition {e : Element} {q : Quantifier} (hq : q.span.WellFormed)
    (hw : s.waiting = 0) (hrep : e.isRepetition = false)
    (he : s.ReadsText e (q.text.toList ++ rest) i) : s.ReadsText (.repetition e q) rest i := by
  obtain ⟨e', j, he', hgo⟩ := he.push hrep
  obtain ⟨k, hquant⟩ := parseFrom_quantifier e' hq hw rest j
  refine ⟨.repetition e' q, { s with elements := .repetition e' q :: s.settled, mode := .ready }, k,
    congrArg (Element.repetition · q) he', ?_, ?_, ?_⟩
  · rw [hw]
    exact ⟨rfl, rfl, fun _ _ h => Mode.noConfusion h⟩
  · intro h
    cases h
  · rw [Element.text, String.toList_append, List.append_assoc]
    exact hgo.trans hquant

/-! ## Lists of elements -/

namespace ParseState

theorem begins_of_ready (h : s.mode = .ready) : s.Begins := by
  intro e he
  cases h.symm.trans he

theorem waiting_of_ready (h : s.mode = .ready) : s.waiting = 0 := by
  unfold waiting
  rw [h]

/-- The state after a blank. -/
def settle (s : ParseState) : ParseState :=
  { s with elements := s.settled, mode := .ready }

end ParseState

/-- What closes a bracket ends the element before it. -/
theorem stops_closing (b : Bracket) (rest : List Char) : Stops (b.closing :: rest) := by
  intro c hc
  obtain rfl : b.closing = c := Option.some.inj hc
  cases b <;> decide

theorem stops_blank (rest : List Char) : Stops (' ' :: rest) := by
  intro c hc
  obtain rfl : ' ' = c := Option.some.inj hc
  decide

/-- A blank settles the elements before it. -/
theorem parseFrom_blank (hs : s.Idle) :
    parseFrom s ⟨' ' :: cs, i⟩ = parseFrom s.settle ⟨cs, i + 1⟩ :=
  parseFrom_cons (by rw [parseStep_of_idle hs (by decide)]; rfl)

/-- Elements are written with a blank between them. -/
theorem spaced_cons (e₁ e₂ : Element) (es : List Element) :
    (Graph.spaced (Element.texts (e₁ :: e₂ :: es))).toList ++ rest =
      e₁.text.toList ++ ' ' :: ((Graph.spaced (Element.texts (e₂ :: es))).toList ++ rest) := by
  simp only [Graph.spaced, Element.texts, String.intercalate_cons_cons, String.toList_append]
  simp

/-- A single element is read as an element. -/
theorem readsTexts_singleton {e : Element} (hs : s.mode = .ready) (he : s.ReadsText e rest i) :
    s.ReadsTexts [e] rest i := by
  obtain ⟨e', s', j, he', hs', -, hgo⟩ := he
  rw [ParseState.waiting_of_ready hs] at hs'
  refine ⟨[e'], s', j, congrArg (fun e => [e]) he', hs', ?_⟩
  rw [Element.texts, Element.texts, Graph.spaced_singleton]
  exact hgo

/-- After an element and a blank, further elements are read as from the beginning. -/
theorem readsTexts_cons {e₁ e₂ : Element} {es : List Element} (hs : s.mode = .ready)
    (he : s.ReadsText e₁ (' ' :: ((Graph.spaced (Element.texts (e₂ :: es))).toList ++ rest)) i)
    (hes : ∀ (s₁ : ParseState) (j : Nat), s₁.mode = .ready → s₁.depth = s.depth →
      s₁.ReadsTexts (e₂ :: es) rest j) :
    s.ReadsTexts (e₁ :: e₂ :: es) rest i := by
  obtain ⟨e', s₁, j, he', hs₁, -, hgo₁⟩ := he
  have hw := ParseState.waiting_of_ready hs
  have hdepth : s₁.settle.depth = s.depth := by
    unfold ParseState.depth
    rw [ParseState.settle, hs₁.frames, hw]
    rfl
  obtain ⟨es', s', k, hes', hs', hgo₂⟩ := hes s₁.settle (j + 1) rfl hdepth
  refine ⟨e' :: es', s', k, congrArg₂ List.cons he' hes', ⟨?_, ?_, hs'.idle⟩, ?_⟩
  · exact hs'.frames.trans hs₁.frames
  · rw [hs'.settled]
    show es'.reverse ++ s₁.settled = _
    rw [hs₁.settled, hw]
    simp
  · rw [spaced_cons, hgo₁, parseFrom_blank hs₁.idle, hgo₂]

/-! ## Trees -/

mutual

/-- **The text of an element is read as that element**, but for places, from any state in which an
element may begin and in which it is not repeated under a negation. -/
theorem readsText : ∀ (e : Element) {s : ParseState} {rest : List Char} (i : Nat),
    e.WellFormed s.depth → s.Begins → e.isRepetition = false ∨ s.waiting = 0 → Stops rest →
      s.ReadsText e rest i
  | .token t, s, rest, i, he, hs, _, hr => by
    cases he with
    | token ht => exact readsText_token ht hs hr
  | .anchor a, s, rest, i, _, hs, _, _ => readsText_anchor a hs
  | .group es, s, rest, i, he, hs, _, _ => by
    cases he with
    | group hd hne hes =>
      rw [← s.depth_enter .group i] at hes
      exact readsText_bracket hs hd hne (readsTexts es _ hne hes rfl (stops_closing .group rest))
  | .alternation es, s, rest, i, he, hs, _, _ => by
    cases he with
    | alternation hd hne hes =>
      rw [← s.depth_enter .alternation i] at hes
      exact readsText_bracket hs hd hne
        (readsTexts es _ hne hes rfl (stops_closing .alternation rest))
  | .negation e, s, rest, i, he, hs, _, hr => by
    cases he with
    | negation hd hrep he =>
      have hbegins : (s.negate i).Begins := fun _ h => Mode.noConfusion h
      exact readsText_negation hs hd hrep (readsText e _ he hbegins (.inl hrep) hr)
  | .repetition e q, s, rest, i, he, hs, hw, _ => by
    cases he with
    | repetition hrep he hq =>
      have hw : s.waiting = 0 := hw.resolve_left Bool.noConfusion
      exact readsText_repetition hq hw hrep
        (readsText e _ he hs (.inl hrep) (stops_quantifier hq rest))

/-- The text of elements is read as those elements, but for places. -/
theorem readsTexts : ∀ (es : List Element) {s : ParseState} {rest : List Char} (i : Nat),
    es ≠ [] → (∀ e ∈ es, e.WellFormed s.depth) → s.mode = .ready → Stops rest →
      s.ReadsTexts es rest i
  | [], _, _, _, hne, _, _, _ => absurd rfl hne
  | [e], s, rest, i, _, he, hs, hr =>
    readsTexts_singleton hs (readsText e i (he e List.mem_cons_self)
      (ParseState.begins_of_ready hs) (.inr (ParseState.waiting_of_ready hs)) hr)
  | e₁ :: e₂ :: es, s, rest, i, _, he, hs, hr => by
    obtain ⟨he₁, hes⟩ := List.forall_mem_cons.mp he
    refine readsTexts_cons hs ?_ ?_
    · exact readsText e₁ i he₁ (ParseState.begins_of_ready hs)
        (.inr (ParseState.waiting_of_ready hs)) (stops_blank _)
    · intro s₁ j hs₁ hdepth
      rw [← hdepth] at hes
      exact readsTexts (e₂ :: es) j (List.cons_ne_nil _ _) hes hs₁ hr

end

/-- **The text of a pattern is read as that pattern**, but for the places of its expressions. -/
theorem parse_texts {es : List Element} (hne : es ≠ []) (hes : ∀ e ∈ es, e.WellFormed 0) :
    ∃ es', Element.unindexedAll es' = Element.unindexedAll es ∧
      parse (Graph.spaced (Element.texts es)) = .ok es' := by
  have hstop : Stops [] := fun _ hc => nomatch hc
  have hread : ParseState.ReadsTexts {} es [] 0 := readsTexts es 0 hne hes rfl hstop
  obtain ⟨es', s', j, hes', hs', hgo⟩ := hread
  refine ⟨es', hes', ?_⟩
  rw [List.append_nil] at hgo
  have hsettled : s'.settled = es'.reverse := by
    rw [hs'.settled]
    exact List.append_nil _
  rw [parse, Cursor.ofString, hgo, parseFrom_nil, ParseState.finish_of_idle hs'.idle hs'.frames,
    hsettled, List.reverse_reverse]
  exact if_neg (by simpa using unindexedAll_ne_nil hes' hne)

/-! ## Compiled patterns -/

namespace Element

theorem isRepetition_rewrite (f : RegexLiteral → RegexLiteral) (h : Quantifier → Quantifier)
    (e : Element) : (e.rewrite f h).isRepetition = e.isRepetition := by
  cases e <;> rfl

theorem normalAll_eq_map (es : List Element) : normalAll es = es.map normal :=
  rewriteAll_eq_map _ _ es

theorem normalAll_ne_nil {es : List Element} (h : es ≠ []) : normalAll es ≠ [] := by
  rw [normalAll_eq_map]
  simpa using h

/-- What can be written down can be written down with the shortest quantifiers. -/
theorem WellFormed.normal {depth : Nat} {e : Element} (h : e.WellFormed depth) :
    e.normal.WellFormed depth := by
  have hall {es : List Element} {depth : Nat} (hes : ∀ e ∈ es, e.normal.WellFormed depth) :
      ∀ e ∈ normalAll es, e.WellFormed depth := by
    rw [normalAll_eq_map]
    simpa using hes
  induction h with
  | token ht =>
    rw [Element.normal, rewrite, TokenTest.rewrite_id]
    exact .token ht
  | anchor s => exact .anchor s
  | group hd hes _ ih => exact .group hd (normalAll_ne_nil hes) (hall ih)
  | alternation hd hes _ ih => exact .alternation hd (normalAll_ne_nil hes) (hall ih)
  | negation hd hrep _ ih => exact .negation hd ((isRepetition_rewrite ..).trans hrep) ih
  | @repetition _ _ q hrep _ hq ih =>
    refine .repetition ((isRepetition_rewrite ..).trans hrep) ih ?_
    rw [Span.span_quantifier]
    exact hq

end Element

end Motif.Pattern

namespace Motif.Graph

open Pattern

theorem preserving_unindexed : Preserving RegexLiteral.unindexed id :=
  ⟨fun _ => rfl, fun _ => rfl, fun _ => rfl⟩

/-- Quantifiers with the same span are not told apart by lowering. -/
theorem preserving_normal : Preserving id fun q => q.span.quantifier :=
  ⟨fun _ => rfl, fun _ => rfl, fun q => q.span.span_quantifier⟩

variable [RegexEngine]

/-- A pattern and its normal form have the same graph, wherever their expressions stand. -/
theorem ofElements_of_unindexed {es es' : List Element} {g : Graph} (h : ofElements es = .ok g)
    (hes : Element.unindexedAll es' = Element.unindexedAll (Element.normalAll es)) :
    ofElements es' = .ok g := by
  have hsame {f : RegexLiteral → RegexLiteral} {k : Quantifier → Quantifier} (hp : Preserving f k)
      (es : List Element) (r : Nat × Arena) :
      lower (.group (Element.rewriteAll f k es)) none {} = .ok r ↔
        lower (.group es) none {} = .ok r :=
    (agree_lower hp (.group es) none {}).eq_ok_iff r
  rw [ofElements_eq_ok_iff] at h ⊢
  rw [← hsame preserving_unindexed, ← Element.unindexedAll, hes, Element.unindexedAll,
    hsame preserving_unindexed, Element.normalAll, hsame preserving_normal]
  exact h

end Motif.Graph

namespace Motif.CompiledPattern

open Pattern

section

variable [RegexEngine]

/-- **A compiled pattern, written and compiled again**, is the same but for the text it goes by. -/
theorem compile_text {source : String} {flags : Flags} {c : CompiledPattern}
    (h : compile source flags = .ok c) :
    ∃ c', compile c.text flags = .ok c' ∧ c'.graph.nodes = c.graph.nodes ∧
      c'.graph.nullable = c.graph.nullable ∧ c'.graph.entry = c.graph.entry ∧
      c'.graph.hasStartAnchor = c.graph.hasStartAnchor ∧ c'.text = c.text := by
  unfold compile at h
  split at h
  · cases h
  · rename_i es hparse
    obtain ⟨g, hg, rfl⟩ := Graph.map_eq_ok h
    obtain ⟨hne, hes⟩ := parse_wellFormed hparse
    have hnormal : ∀ e ∈ Element.normalAll es, e.WellFormed 0 := by
      rw [Element.normalAll_eq_map]
      simpa using fun e he => (hes e he).normal
    obtain ⟨es', hes', hparse'⟩ := parse_texts (Element.normalAll_ne_nil hne) hnormal
    have hg' : Graph.ofElements es' = .ok g := Graph.ofElements_of_unindexed hg hes'
    refine ⟨⟨g.text, g, Options.withFlags {} flags⟩, ?_, rfl, rfl, rfl, rfl, rfl⟩
    show compile g.text flags = _
    rw [compile, Graph.text_ofElements hg, hparse']
    show ofElements es' _ _ = _
    rw [ofElements, hg']
    rfl

end

/-- A repeated negation in a notation that is not the shortest one. -/
theorem compile_text_negation :
    ∃ c, compile "!['a' 'b']{0,}" {} = .ok c ∧
      ∃ c', compile c.text {} = .ok c' ∧ c'.graph.nodes = c.graph.nodes ∧
        c'.graph.nullable = c.graph.nullable ∧ c'.graph.entry = c.graph.entry ∧
        c'.graph.hasStartAnchor = c.graph.hasStartAnchor ∧ c'.text = c.text := by
  have hparse : parse "!['a' 'b']{0,}" =
      .ok [.repetition (.negation (.alternation [.token ⟨none, [⟨"text", .text "a"⟩]⟩,
        .token ⟨none, [⟨"text", .text "b"⟩]⟩])) (.range ⟨0, none⟩)] := by cbv
  have h : ∃ c, compile "!['a' 'b']{0,}" {} = .ok c := by
    rw [compile, hparse]
    exact ⟨_, rfl⟩
  obtain ⟨c, h⟩ := h
  exact ⟨c, h, compile_text h⟩

end Motif.CompiledPattern
