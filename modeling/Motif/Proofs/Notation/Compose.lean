import Motif.Proofs.Notation.Context
import Motif.Proofs.Notation.Height
import Motif.Proofs.Notation.Image

/-!
# Patterns made of patterns (specification §4.1, E3)

Patterns with blanks between them are read one after the other, and a pattern in brackets is read as
what the brackets make of it. Reading goes on as if the pattern stood alone: on a state that holds
what came before at the bottom, and with indices that count it in.

* `parseStep_embed`: a step within a longer pattern.
* `parseFrom_embed`: a whole pattern within a longer one, where there is room for its depth.
* **`parse_compose`**: patterns one after the other, in brackets, and in brackets with a quantifier.
-/

namespace Motif.Pattern

/-! ## Trees further on in a text -/

namespace Element

/-- An element with `k` more bytes before it. -/
def shift (k : Nat) (e : Element) : Element :=
  e.rewrite (RegexLiteral.shift k) id

/-- Elements with `k` more bytes before them. -/
def shiftAll (k : Nat) (es : List Element) : List Element :=
  rewriteAll (RegexLiteral.shift k) id es

theorem shiftAll_eq_map (k : Nat) (es : List Element) : shiftAll k es = es.map (shift k) :=
  rewriteAll_eq_map _ _ es

theorem shift_negated (k n : Nat) (e : Element) :
    (e.negated n).shift k = (e.shift k).negated n := by
  induction n with
  | zero => rfl
  | succ n ih => exact congrArg negation ih

mutual

theorem shift_zero : ∀ e : Element, e.shift 0 = e
  | token t => congrArg token t.rewrite_id
  | anchor _ => rfl
  | group es => congrArg group (shiftAll_zero es)
  | alternation es => congrArg alternation (shiftAll_zero es)
  | negation e => congrArg negation (shift_zero e)
  | repetition e q => congrArg (repetition · q) (shift_zero e)

theorem shiftAll_zero : ∀ es : List Element, shiftAll 0 es = es
  | [] => rfl
  | e :: es => congrArg₂ List.cons (shift_zero e) (shiftAll_zero es)

end

end Element

theorem Bracket.shift_element (k : Nat) (b : Bracket) (es : List Element) :
    (b.element es).shift k = b.element (Element.shiftAll k es) := by
  cases b <;> rfl

/-! ## States within longer patterns -/

/-- What comes before: open brackets, and the elements since the innermost of them, last first; and
the number of bytes of their text. -/
structure Setting where
  frames : List Frame
  elements : List Element
  bytes : Nat

namespace Setting

variable (o : Setting)

/-- Elements since an open bracket, and if there is none, those that come before as well. -/
def elementsUnder (frames : List Frame) (es : List Element) : List Element :=
  es.map (Element.shift o.bytes) ++ if frames = [] then o.elements else []

/-- Open brackets inside of those that come before. -/
def framesUnder : List Frame → List Frame
  | [] => o.frames
  | f :: frames =>
    ⟨f.bracket, f.start + o.bytes, f.negations, o.elementsUnder frames f.before⟩ ::
      framesUnder frames

/-- A mode further on in a text. -/
def mode : Mode → Mode
  | .ready => .ready
  | .negating n mark => .negating n (mark + o.bytes)
  | .complete e => .complete (e.shift o.bytes)

/-- A state after what comes before. -/
def embed (s : ParseState) : ParseState where
  frames := o.framesUnder s.frames
  elements := o.elementsUnder s.frames s.elements
  mode := o.mode s.mode

variable {o} {s s' : ParseState} {b : Bracket} {i : Nat}

theorem nesting_framesUnder (frames : List Frame) :
    nesting (o.framesUnder frames) = nesting frames + nesting o.frames := by
  induction frames with
  | nil => exact (Nat.zero_add _).symm
  | cons f frames ih =>
    rw [framesUnder, nesting_cons, nesting_cons, ih]
    dsimp only
    omega

theorem settled_embed (s : ParseState) :
    (o.embed s).settled = o.elementsUnder s.frames s.settled := by
  obtain ⟨frames, elements, mode⟩ := s
  cases mode <;> rfl

theorem waiting_embed (s : ParseState) : (o.embed s).waiting = s.waiting := by
  obtain ⟨frames, elements, mode⟩ := s
  cases mode <;> rfl

theorem depth_embed (s : ParseState) : (o.embed s).depth = s.depth + nesting o.frames := by
  rw [ParseState.depth_eq, ParseState.depth_eq, waiting_embed, embed, nesting_framesUnder]
  omega

theorem embed_push (s : ParseState) (e : Element) :
    o.embed (s.push e) = (o.embed s).push (e.shift o.bytes) := by
  rw [ParseState.push, ParseState.push, settled_embed, waiting_embed, ← Element.shift_negated]
  rfl

theorem embed_negate (s : ParseState) (i : Nat) :
    o.embed (s.negate i) = (o.embed s).negate (i + o.bytes) := by
  rw [ParseState.negate, ParseState.negate, settled_embed, waiting_embed]
  rfl

theorem embed_enter (s : ParseState) (b : Bracket) (i : Nat) :
    o.embed (s.enter b i) = (o.embed s).enter b (i + o.bytes) := by
  rw [ParseState.enter, ParseState.enter, settled_embed, waiting_embed]
  rfl

theorem elementsUnder_cons (f : Frame) (frames : List Frame) (es : List Element) :
    o.elementsUnder (f :: frames) es = es.map (Element.shift o.bytes) :=
  List.append_nil _

theorem embed_leave (h : s.leave b i = .ok s') :
    (o.embed s).leave b (i + o.bytes) = .ok (o.embed s') := by
  unfold ParseState.leave at h
  split at h
  · cases h
  · rename_i f frames hf
    split at h
    · cases h
    · rename_i hb
      split at h
      · cases h
      · rename_i hne
        obtain rfl := Except.ok.inj h
        have hframes : (o.embed s).frames = ⟨f.bracket, f.start + o.bytes, f.negations,
            o.elementsUnder frames f.before⟩ :: o.framesUnder frames := by
          rw [embed, hf, framesUnder]
        have hsettled : (o.embed s).settled = s.settled.map (Element.shift o.bytes) := by
          rw [settled_embed, hf, elementsUnder_cons]
        have helement : b.element (s.settled.map (Element.shift o.bytes)).reverse =
            (b.element s.settled.reverse).shift o.bytes := by
          rw [Bracket.shift_element, Element.shiftAll_eq_map, List.map_reverse]
        unfold ParseState.leave
        rw [hframes, hsettled, helement]
        dsimp only
        rw [if_neg hb, if_neg (by simpa using hne), ← Element.shift_negated]
        rfl

/-- There is room for a bracket or a negation if there is for what comes after it. -/
theorem embed_nest {t : ParseState} (hd : s'.depth = s.depth + 1)
    (hroom : s'.depth + nesting o.frames ≤ maxDepth) (j : Nat) :
    (o.embed s).nest t j = .ok t := by
  refine if_neg ?_
  rw [depth_embed]
  omega

end Setting

/-! ## Steps -/

variable {o : Setting} {s s' : ParseState} {c : Char} {cs rest : List Char} {i : Nat} {b : Cursor}

/-- An element that is read within a longer text is pushed there. -/
theorem carries_push {α β : Type} {g : α → β} {r : Reading α} {r' : Reading β}
    {e : α → Element} {e' : β → Element} (hr : Reading.Carries o.bytes rest g r r')
    (he : ∀ v, e' (g v) = (e v).shift o.bytes) :
    Reading.Carries o.bytes rest o.embed (r.map fun v => s.push (e v))
      (r'.map fun v => (o.embed s).push (e' v)) :=
  hr.map fun v => by rw [he, Setting.embed_push]

theorem stepElement_embed (hrest : Closes rest) (h : stepElement s c cs i = .ok (s', b))
    (hroom : s'.depth + nesting o.frames ≤ maxDepth) :
    stepElement (o.embed s) c (cs ++ rest) (i + o.bytes) =
      .ok (o.embed s', b.within o.bytes rest) := by
  unfold stepElement at h ⊢
  dsimp only at h ⊢
  rw [← within_past]
  split at h
  case h_1 =>
    obtain ⟨_, hn, h⟩ := Graph.map_eq_ok h
    obtain ⟨-, rfl⟩ := ParseState.nest_eq_ok hn
    obtain ⟨rfl, rfl⟩ := Prod.mk.inj h
    rw [Setting.embed_nest rfl hroom, Setting.embed_negate]
    rfl
  case h_2 | h_3 =>
    obtain ⟨_, hn, h⟩ := Graph.map_eq_ok h
    obtain ⟨-, rfl⟩ := ParseState.nest_eq_ok hn
    obtain ⟨rfl, rfl⟩ := Prod.mk.inj h
    rw [Setting.embed_nest (s.depth_enter _ i) hroom, Setting.embed_enter]
    rfl
  case h_4 | h_5 =>
    obtain ⟨rfl, rfl⟩ := Prod.mk.inj (Except.ok.inj h)
    rw [Setting.embed_push]
    rfl
  case h_6 =>
    have hread : Reading.Carries o.bytes rest id _ _ :=
      carries_text i (i + o.bytes) cs (Cursor.past i '\'' cs).index
    exact carries_push hread (fun _ => rfl) s' b h
  case h_7 =>
    have hread := carries_regex (k := o.bytes) hrest i cs (Cursor.past i '/' cs).index
    exact carries_push hread (fun _ => rfl) s' b h
  case h_8 =>
    split at h
    · cases h
    · rename_i hq
      rw [if_neg hq]
      exact carries_push (carries_tokenTest hrest ⟨c :: cs, i⟩) (fun _ => rfl) s' b h

theorem stepBetween_embed (hrest : Closes rest) (h : stepBetween s c cs i = .ok (s', b))
    (hroom : s'.depth + nesting o.frames ≤ maxDepth) :
    stepBetween (o.embed s) c (cs ++ rest) (i + o.bytes) =
      .ok (o.embed s', b.within o.bytes rest) := by
  unfold stepBetween at h ⊢
  split at h
  · rename_i hblank
    obtain ⟨rfl, rfl⟩ := Prod.mk.inj (Except.ok.inj h)
    rw [if_pos hblank, ← within_past, Setting.settled_embed]
    rfl
  · rename_i hblank
    rw [if_neg hblank]
    split at h
    · rename_i hc
      obtain ⟨_, hl, h⟩ := Graph.map_eq_ok h
      obtain ⟨rfl, rfl⟩ := Prod.mk.inj h
      rw [Setting.embed_leave hl, ← within_past]
      rfl
    · exact stepElement_embed hrest h hroom

/-- **A step within a longer pattern** is the step it would be otherwise, after what comes
before. -/
theorem parseStep_embed (hrest : Closes rest) (h : parseStep s c cs i = .ok (s', b))
    (hroom : s'.depth + nesting o.frames ≤ maxDepth) :
    parseStep (o.embed s) c (cs ++ rest) (i + o.bytes) =
      .ok (o.embed s', b.within o.bytes rest) := by
  have hmode : (o.embed s).mode = o.mode s.mode := rfl
  unfold parseStep at h ⊢
  split at h
  · rename_i hm
    rw [hmode, hm]
    dsimp only [Setting.mode]
    split at h
    · cases h
    · rename_i hc
      rw [if_neg hc]
      exact stepElement_embed hrest h hroom
  · rename_i e hm
    rw [hmode, hm]
    dsimp only [Setting.mode]
    split at h
    · rename_i hq
      have hread : Reading.Carries o.bytes rest o.embed
          ((readQuantifier c cs i).map fun q =>
            { s with elements := .repetition e q :: s.elements, mode := .ready })
          ((readQuantifier c (cs ++ rest) (i + o.bytes)).map fun q =>
            { o.embed s with
              elements := .repetition (e.shift o.bytes) q :: (o.embed s).elements
              mode := .ready }) :=
        (carries_quantifier hrest c cs i).map fun _ => rfl
      rw [if_pos hq]
      exact hread s' b h
    · rename_i hq
      rw [if_neg hq]
      exact stepBetween_embed hrest h hroom
  · rename_i hm
    rw [hmode, hm]
    exact stepBetween_embed hrest h hroom

/-! ## Patterns within longer ones -/

/-- The index after a text is that before it and the length of the text. -/
theorem index_add_of_reaches {a b : Cursor} (h : a.Reaches b) :
    b.index + byteLength b.rest = a.index + byteLength a.rest := by
  obtain ⟨used, ha, hb⟩ := h
  rw [ha, hb, byteLength_append, Nat.add_assoc]

theorem Setting.idle_embed (h : s.Idle) : (o.embed s).Idle := by
  obtain ⟨frames, elements, mode⟩ := s
  intro n mark hm
  cases mode with
  | ready | complete e => cases hm
  | negating n' mark' => exact h n' mark' rfl

/-- **A pattern within a longer one** is read as it would be otherwise, after what comes before, if
that leaves room for its depth. -/
theorem parseFrom_embed (hrest : Closes rest) {a : Cursor} {es : List Element}
    (h : parseFrom s a = .ok es) (hroom : Element.heightAll es + nesting o.frames ≤ maxDepth) :
    ∃ t, (o.embed {}).Reached (Element.shiftAll o.bytes es) t ∧
      parseFrom (o.embed s) (a.within o.bytes rest) =
        parseFrom t ⟨rest, a.index + byteLength a.rest + o.bytes⟩ := by
  fun_induction parseFrom s a with
  | case1 s a hr =>
    obtain ⟨hf, hidle, rfl⟩ := ParseState.finish_eq_ok h
    refine ⟨o.embed s, ⟨?_, ?_, Setting.idle_embed hidle⟩, ?_⟩
    · show o.framesUnder s.frames = _
      rw [hf]
      rfl
    · rw [Setting.settled_embed, hf, Element.shiftAll_eq_map, List.map_reverse,
        List.reverse_reverse]
      rfl
    · rw [Cursor.within, hr]
      rfl
  | case2 => cases h
  | case3 s a c cs hr s' b hstep ih =>
    obtain ⟨t, hreached, hgo⟩ := ih h
    have hdepth := Nat.le_trans s'.depth_le_height (parseFrom_height h)
    have hstep' := parseStep_embed (o := o) hrest hstep (by omega)
    have hend := index_add_of_reaches (parseStep_passes hstep).reaches
    refine ⟨t, hreached, ?_⟩
    rw [Cursor.within, hr, List.cons_append, parseFrom_cons hstep', hgo, hend]

theorem isQuantifier_of_isBlank (h : Text.isBlank c = true) : isQuantifier c = false := by
  rw [Bool.eq_false_iff]
  intro hq
  rcases eq_of_isQuantifier hq with rfl | rfl | rfl | rfl <;> exact absurd h (by decide)

/-- Blanks settle the elements before them. -/
theorem parseFrom_blanks (hs : s.Idle) {w : List Char} (hne : w ≠ [])
    (hw : ∀ c ∈ w, Text.isBlank c = true) (cs : List Char) (i : Nat) :
    parseFrom s ⟨w ++ cs, i⟩ = parseFrom s.settle ⟨cs, i + byteLength w⟩ := by
  induction w generalizing s i with
  | nil => exact absurd rfl hne
  | cons c w ih =>
    obtain ⟨hc, hw⟩ := List.forall_mem_cons.mp hw
    have hstep : parseStep s c (w ++ cs) i = .ok (s.settle, .past i c (w ++ cs)) := by
      rw [parseStep_of_idle hs (isQuantifier_of_isBlank hc), stepBetween, if_pos hc]
      rfl
    rw [List.cons_append, parseFrom_cons hstep]
    cases w with
    | nil => rfl
    | cons d w =>
      have hidle : s.settle.Idle := fun n mark h => Mode.noConfusion h
      have hgo := ih hidle (List.cons_ne_nil d w) hw (i + c.utf8Size)
      rw [byteLength_cons, ← Nat.add_assoc]
      exact hgo

theorem closes_blanks {w : List Char} (hne : w ≠ []) (hw : ∀ c ∈ w, Text.isBlank c = true)
    (cs : List Char) : Closes (w ++ cs) := by
  obtain ⟨c, w, rfl⟩ := List.exists_cons_of_ne_nil hne
  intro d hd
  obtain rfl : c = d := Option.some.inj hd
  exact .inl (hw c List.mem_cons_self)

theorem closes_closing (b : Bracket) (cs : List Char) : Closes (b.closing :: cs) := by
  intro c hc
  obtain rfl : b.closing = c := Option.some.inj hc
  cases b <;> exact .inr rfl

theorem shiftAll_ne_nil {ps : List Element} (h : ps ≠ []) (k : Nat) :
    Element.shiftAll k ps ≠ [] := by
  rw [Element.shiftAll_eq_map]
  simpa using h

/-- **Two patterns with blanks between them** are read one after the other. -/
theorem parse_blanks {p w q : String} {ps qs : List Element} (hp : parse p = .ok ps)
    (hq : parse q = .ok qs) (hne : w ≠ "") (hw : ∀ c ∈ w.toList, Text.isBlank c = true) :
    parse (p ++ w ++ q) =
      .ok (ps ++ Element.shiftAll (p.utf8ByteSize + w.utf8ByteSize) qs) := by
  have hne' : w.toList ≠ [] := by simpa using hne
  have hnil : Closes [] := fun _ hc => nomatch hc
  obtain ⟨t, ht, hgo⟩ := parseFrom_embed (o := ⟨[], [], 0⟩) (closes_blanks hne' hw q.toList) hp
    (parse_heightAll_le hp)
  obtain ⟨t', ht', hgo'⟩ := parseFrom_embed
    (o := ⟨[], ps.reverse, p.utf8ByteSize + w.utf8ByteSize⟩) hnil hq (parse_heightAll_le hq)
  -- the second pattern is read after the elements of the first
  have hsettle : t.settle =
      Setting.embed ⟨[], ps.reverse, p.utf8ByteSize + w.utf8ByteSize⟩ {} := by
    have hsettled : t.settled = ps.reverse := by
      rw [ht.settled, Element.shiftAll_zero]
      exact List.append_nil _
    rw [ParseState.settle, hsettled, ht.frames]
    rfl
  have hsettled : t'.settled.reverse =
      ps ++ Element.shiftAll (p.utf8ByteSize + w.utf8ByteSize) qs := by
    rw [ht'.settled, List.reverse_append, List.reverse_reverse]
    exact congrArg (· ++ _) (List.reverse_reverse ps)
  have hne'' : t'.settled ≠ [] := by
    intro hnone
    rw [hnone] at hsettled
    exact (parse_wellFormed hp).1 (List.append_eq_nil_iff.mp hsettled.symm).1
  have hstart : parse (p ++ w ++ q) = parseFrom {} ⟨p.toList ++ (w.toList ++ q.toList), 0⟩ := by
    rw [parse, Cursor.ofString, String.toList_append, String.toList_append, List.append_assoc]
  have hcursor : (⟨q.toList, 0 + byteLength p.toList + 0 + byteLength w.toList⟩ : Cursor) =
      (Cursor.ofString q).within (p.utf8ByteSize + w.utf8ByteSize) [] := by
    rw [Cursor.within, Cursor.ofString, List.append_nil, utf8ByteSize_eq_byteLength,
      utf8ByteSize_eq_byteLength, Nat.zero_add, Nat.add_zero, Nat.zero_add]
  calc
    parse (p ++ w ++ q)
    _ = parseFrom t ⟨w.toList ++ q.toList, _⟩ := hstart.trans hgo
    _ = parseFrom t.settle ⟨q.toList, _⟩ := parseFrom_blanks ht.idle hne' hw _ _
    _ = parseFrom t' ⟨[], _⟩ := by
      rw [hsettle]
      exact (congrArg _ hcursor).trans hgo'
    _ = .ok t'.settled.reverse := by
      rw [parseFrom_nil, ParseState.finish_of_idle ht'.idle ht'.frames, if_neg hne'']
    _ = .ok (ps ++ Element.shiftAll (p.utf8ByteSize + w.utf8ByteSize) qs) := by rw [hsettled]

/-- A pattern in brackets is one element, whatever follows. -/
theorem parseFrom_bracket {p : String} {ps : List Element} (hp : parse p = .ok ps)
    (hroom : Element.heightAll ps < maxDepth) (b : Bracket) (rest : List Char) :
    ∃ j, parseFrom {} ⟨b.opening :: (p.toList ++ b.closing :: rest), 0⟩ =
      parseFrom (ParseState.push {} (b.element (Element.shiftAll 1 ps))) ⟨rest, j⟩ := by
  have hopen : b.opening.utf8Size = 1 := by cases b <;> rfl
  have hstart : parseFrom {} ⟨b.opening :: (p.toList ++ b.closing :: rest), 0⟩ =
      parseFrom (ParseState.enter {} b 0) ⟨p.toList ++ b.closing :: rest, 1⟩ := by
    rw [parseFrom_opening b (ParseState.begins_of_ready rfl) (by decide), Cursor.past, hopen]
  obtain ⟨t, ht, hgo⟩ := parseFrom_embed (o := ⟨[⟨b, 0, 0, []⟩], [], 1⟩) (closes_closing b rest) hp
    hroom
  have ht' : (ParseState.enter {} b 0).Reached (Element.shiftAll 1 ps) t := ht
  have hne := shiftAll_ne_nil (parse_wellFormed hp).1 1
  exact ⟨_, hstart.trans (Eq.trans hgo (parseFrom_closing ht' hne))⟩

theorem parse_bracket {p : String} {ps : List Element} (hp : parse p = .ok ps)
    (hroom : Element.heightAll ps < maxDepth) (b : Bracket) :
    parse (b.opening.toString ++ p ++ b.closing.toString) =
      .ok [b.element (Element.shiftAll 1 ps)] := by
  obtain ⟨j, hgo⟩ := parseFrom_bracket hp hroom b []
  have hstart : parse (b.opening.toString ++ p ++ b.closing.toString) =
      parseFrom {} ⟨b.opening :: (p.toList ++ b.closing :: []), 0⟩ := by
    simp [parse, Cursor.ofString]
  rw [hstart, hgo, parseFrom_nil]
  rfl

/-- A quantifier that follows the bracket at once is that of the element. -/
theorem parse_bracket_quantifier {p : String} {ps : List Element} (hp : parse p = .ok ps)
    (hroom : Element.heightAll ps < maxDepth) (b : Bracket) {q : Quantifier}
    (hq : q ∈ [.optional, .star, .plus]) :
    parse (b.opening.toString ++ p ++ b.closing.toString ++ q.text) =
      .ok [.repetition (b.element (Element.shiftAll 1 ps)) q] := by
  obtain ⟨j, hgo⟩ := parseFrom_bracket hp hroom b q.text.toList
  have hwf : q.span.WellFormed := by
    simp only [List.mem_cons, List.not_mem_nil, or_false] at hq
    rcases hq with rfl | rfl | rfl <;> constructor <;> simp [Quantifier.span]
  obtain ⟨k, hquantifier⟩ := parseFrom_quantifier (s := {})
    (b.element (Element.shiftAll 1 ps)) hwf rfl [] j
  have hstart : parse (b.opening.toString ++ p ++ b.closing.toString ++ q.text) =
      parseFrom {} ⟨b.opening :: (p.toList ++ b.closing :: q.text.toList), 0⟩ := by
    simp [parse, Cursor.ofString]
  rw [List.append_nil] at hquantifier
  rw [hstart, hgo, hquantifier, parseFrom_nil]
  rfl

/-- **Notation is made of its parts.** Two patterns with blanks between them are read one after the
other, and a pattern in brackets as the one element that these make of it, repeated if a quantifier
follows; all that changes are the places of expressions, by the number of bytes before them. -/
theorem parse_compose :
    (∀ (p w q : String) (ps qs : List Element), parse p = .ok ps → parse q = .ok qs →
      w ≠ "" → (∀ c ∈ w.toList, Text.isBlank c = true) →
        parse (p ++ w ++ q) =
          .ok (ps ++ Element.shiftAll (p.utf8ByteSize + w.utf8ByteSize) qs)) ∧
    ∀ (p : String) (ps : List Element) (b : Bracket), parse p = .ok ps →
      Element.heightAll ps < maxDepth →
        parse (b.opening.toString ++ p ++ b.closing.toString) =
          .ok [b.element (Element.shiftAll 1 ps)] ∧
        ∀ q ∈ [Quantifier.optional, .star, .plus],
          parse (b.opening.toString ++ p ++ b.closing.toString ++ q.text) =
            .ok [.repetition (b.element (Element.shiftAll 1 ps)) q] :=
  ⟨fun _ _ _ _ _ hp hq hne hw => parse_blanks hp hq hne hw, fun _ _ b hp hroom =>
    ⟨parse_bracket hp hroom b, fun _ hq => parse_bracket_quantifier hp hroom b hq⟩⟩

/-- Expressions after a character of more than one byte, and in a repeated alternation. -/
theorem parse_compose_expressions :
    (∃ ps qs, parse "'é'" = .ok ps ∧ parse "/a/i" = .ok qs ∧
      parse ("'é'" ++ " " ++ "/a/i") = .ok (ps ++ Element.shiftAll 5 qs)) ∧
    ∃ ps, parse "/a/ !/b/" = .ok ps ∧ Element.heightAll ps < maxDepth ∧
      parse ("[" ++ "/a/ !/b/" ++ "]") = .ok [.alternation (Element.shiftAll 1 ps)] ∧
      parse ("[" ++ "/a/ !/b/" ++ "]" ++ "?") =
        .ok [.repetition (.alternation (Element.shiftAll 1 ps)) .optional] := by
  constructor
  · have hp : parse "'é'" = .ok [.token ⟨none, [⟨"text", .text "é"⟩]⟩] := by cbv
    have hq : parse "/a/i" = .ok [.token ⟨none, [⟨"text", .regex ⟨"a", "i", 0⟩⟩]⟩] := by cbv
    have hw : ∀ c ∈ " ".toList, Text.isBlank c = true := List.forall_mem_singleton.mpr (by decide)
    exact ⟨_, _, hp, hq, parse_compose.1 _ " " _ _ _ hp hq (by decide) hw⟩
  · have hp : parse "/a/ !/b/" = .ok [.token ⟨none, [⟨"text", .regex ⟨"a", "", 0⟩⟩]⟩,
        .negation (.token ⟨none, [⟨"text", .regex ⟨"b", "", 5⟩⟩]⟩)] := by cbv
    obtain ⟨hbracket, hquantifier⟩ := parse_compose.2 _ _ .alternation hp (by decide)
    exact ⟨_, hp, by decide, hbracket, hquantifier .optional (by decide)⟩

end Motif.Pattern
