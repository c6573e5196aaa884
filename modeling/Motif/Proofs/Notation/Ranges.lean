import Motif.Proofs.Notation.Faults
import Motif.Proofs.Notation.Literal
import Motif.Proofs.Notation.Sound

/-!
# What is read as a range (specification E3)

After an element an opening brace begins a range. `RangeForm` lists the forms in which ranges are
documented: one number, or a comma with a number on one side of it or on both. They are read with
the bounds they state, unless no count but zero lies within them. So is a comma alone, which is none
of the documented forms: it bounds nothing. All other texts are refused, as unclosed only if they
end inside of a range.

* `readRange_eq_ok_iff`: which texts are read, with which span, and where reading goes on.
* `readRange_eq_unclosed_iff`: which texts end inside of a range.
* **`parseStep_range`**: both, after an element.
-/

namespace Motif.Pattern

/-! ## Numbers -/

/-- A number below 2 ^ 32 in decimal digits, of which there is at least one. -/
structure Numeral (digits : List Char) (n : UInt32) : Prop where
  ne_nil : digits ≠ []
  isDigit : ∀ c ∈ digits, c.isDigit = true
  value : Nat.ofDigitChars 10 digits 0 = n.toNat

/-- A bound in a range: a number, or nothing where there is no bound. -/
def Bound (digits : List Char) : Option UInt32 → Prop
  | none => digits = []
  | some n => Numeral digits n

theorem Bound.isDigit {digits : List Char} {n : Option UInt32} (h : Bound digits n) :
    ∀ c ∈ digits, c.isDigit = true := by
  cases n with
  | none =>
    obtain rfl : digits = [] := h
    exact List.forall_mem_nil _
  | some n => exact Numeral.isDigit h

theorem decimalValue_eq (digits : List Char) :
    decimalValue digits = Nat.ofDigitChars 10 digits 0 :=
  Nat.ofDigitChars_eq_foldl.symm

/-- What is read as a number is a bound. -/
theorem readNumber_bound {a b : Cursor} {n : Option UInt32} (h : readNumber a = .ok (n, b)) :
    ∃ digits, Bound digits n ∧ a.rest = digits ++ b.rest := by
  have hsplit : a.rest = a.takeWhile Char.isDigit ++ (a.dropWhile Char.isDigit).rest :=
    List.takeWhile_append_dropWhile.symm
  unfold readNumber at h
  dsimp only at h
  split at h
  · rename_i hnil
    obtain ⟨rfl, rfl⟩ := Prod.mk.inj (Except.ok.inj h)
    exact ⟨[], rfl, by rw [hnil] at hsplit; exact hsplit⟩
  · rename_i hne
    split at h
    · rename_i hlt
      obtain ⟨rfl, rfl⟩ := Prod.mk.inj (Except.ok.inj h)
      refine ⟨_, ⟨hne, List.all_eq_true.mp List.all_takeWhile, ?_⟩, hsplit⟩
      rw [← decimalValue_eq, UInt32.toNat_ofNat_of_lt' hlt]
    · cases h

/-- A bound is read before anything that is no digit. -/
theorem reads_bound {digits : List Char} {n : Option UInt32} (h : Bound digits n)
    (rest : List Char) (hr : ∀ c ∈ rest.head?, c.isDigit = false) (i : Nat) :
    Reads (readNumber ⟨digits ++ rest, i⟩) n rest := by
  cases n with
  | none =>
    obtain rfl : digits = [] := h
    exact reads_noNumber hr i
  | some n =>
    obtain ⟨htake, j, hdrop⟩ := takeWhile_stop h.isDigit hr i
    have hvalue : decimalValue digits = n.toNat := (decimalValue_eq digits).trans (Numeral.value h)
    have hlt : n.toNat < UInt32.size := n.toNat_lt
    rw [readNumber]
    simp only [htake, hdrop, if_neg (Numeral.ne_nil h), hvalue, if_pos hlt, UInt32.ofNat_toNat]
    exact ⟨j, rfl⟩

/-- A number is refused only if it is too large. -/
theorem readNumber_eq_error {a : Cursor} {f : Fault} (h : readNumber a = .error f) :
    f = .invalidRange .tooLarge a.index := by
  unfold readNumber at h
  dsimp only at h
  split at h
  · cases h
  · split at h
    · cases h
    · exact (Except.error.inj h).symm

/-! ## Ranges -/

/-- The documented forms of a range between its braces, each with the span that it stands for. -/
inductive RangeForm : List Char → Span → Prop
  | exactly {ds : List Char} {m : UInt32} : Numeral ds m → RangeForm ds ⟨m, some m⟩
  | atLeast {ds : List Char} {m : UInt32} : Numeral ds m → RangeForm (ds ++ [',']) ⟨m, none⟩
  | atMost {ds : List Char} {n : UInt32} : Numeral ds n → RangeForm (',' :: ds) ⟨0, some n⟩
  | between {ds es : List Char} {m n : UInt32} : Numeral ds m → Numeral es n →
    RangeForm (ds ++ ',' :: es) ⟨m, some n⟩

/-- What is read as a range between its braces: one of the documented forms, or a comma alone. -/
def ReadForm (text : List Char) (s : Span) : Prop :=
  RangeForm text s ∨ text = [','] ∧ s = ⟨0, none⟩

/-- Bounds on either side of a comma, at most two, make up a range. -/
theorem readForm_of_bounds {ds es : List Char} {min max : Option UInt32} (hmin : Bound ds min)
    (hmax : Bound es max) : ReadForm (ds ++ ',' :: es) ⟨min.getD 0, max⟩ := by
  cases min with
  | none =>
    obtain rfl : ds = [] := hmin
    cases max with
    | none =>
      obtain rfl : es = [] := hmax
      exact .inr ⟨rfl, rfl⟩
    | some n => exact .inl (.atMost hmax)
  | some m =>
    cases max with
    | none =>
      obtain rfl : es = [] := hmax
      exact .inl (.atLeast hmin)
    | some n => exact .inl (.between hmin hmax)

/-- A range is one number, or bounds on either side of a comma. -/
theorem ReadForm.bounds {text : List Char} {s : Span} (h : ReadForm text s) :
    (∃ m, Numeral text m ∧ s = ⟨m, some m⟩) ∨
    ∃ ds es min max, text = ds ++ ',' :: es ∧ Bound ds min ∧ Bound es max ∧
      s = ⟨min.getD 0, max⟩ := by
  rcases h with (@⟨_, m, hm⟩ | @⟨ds, m, hm⟩ | @⟨ds, n, hn⟩ | @⟨ds, es, m, n, hm, hn⟩) | ⟨rfl, rfl⟩
  · exact .inl ⟨m, hm, rfl⟩
  · exact .inr ⟨ds, [], some m, none, rfl, hm, rfl, rfl⟩
  · exact .inr ⟨[], ds, none, some n, rfl, rfl, hn, rfl⟩
  · exact .inr ⟨ds, es, some m, some n, rfl, hm, hn, rfl⟩
  · exact .inr ⟨[], [], none, none, rfl, rfl, rfl, rfl⟩

/-- The text ends inside of a range whose bounds are good so far. -/
def EndsInRange (cs : List Char) : Prop :=
  ∃ ds min, Bound ds min ∧ (cs = ds ∨ ∃ es max, Bound es max ∧ cs = ds ++ ',' :: es)

theorem readRangeEnd_eq_ok {start : Nat} {min : UInt32} {max : Option UInt32} {a b : Cursor}
    {s : Span} (h : readRangeEnd start min max a = .ok (s, b)) :
    s = ⟨min, max⟩ ∧ a.rest = '\x7d' :: b.rest := by
  unfold readRangeEnd at h
  split at h
  · rename_i hr
    obtain ⟨s', hs, h⟩ := Graph.map_eq_ok h
    obtain ⟨rfl, rfl⟩ := Prod.mk.inj h
    unfold checkedSpan at hs
    split at hs
    · cases hs
    · split at hs
      · cases hs
      · exact ⟨(Except.ok.inj hs).symm, hr⟩
  · cases h
  · cases h

/-- What is read as a range is written in one of the forms. -/
theorem readRange_form {start : Nat} {a b : Cursor} {s : Span}
    (h : readRange start a = .ok (s, b)) :
    ∃ text, ReadForm text s ∧ a.rest = text ++ '\x7d' :: b.rest := by
  unfold readRange at h
  split at h
  · cases h
  · rename_i min c hmin
    obtain ⟨ds, hds, hrest⟩ := readNumber_bound hmin
    split at h
    · rename_i cs hc
      split at h
      · cases h
      · rename_i max d hmax
        obtain ⟨es, hes, hcs⟩ := readNumber_bound hmax
        obtain ⟨rfl, hd⟩ := readRangeEnd_eq_ok h
        obtain rfl : cs = es ++ d.rest := hcs
        refine ⟨ds ++ ',' :: es, readForm_of_bounds hds hes, ?_⟩
        rw [hrest, hc, hd, List.append_assoc, List.cons_append]
    · split at h
      · obtain ⟨rfl, hc⟩ := readRangeEnd_eq_ok h
        exact ⟨ds, .inl (.exactly hds), by rw [hrest, hc]⟩
      · cases h
    · cases h
    · cases h

/-- A range in one of the forms is read if some count but zero lies within its bounds. -/
theorem reads_form {text : List Char} {s : Span} (h : ReadForm text s) (hs : s.WellFormed)
    (start : Nat) (rest : List Char) (i : Nat) :
    Reads (readRange start ⟨text ++ '\x7d' :: rest, i⟩) s rest := by
  have hclose : ∀ c ∈ ('\x7d' :: rest).head?, c.isDigit = false := by simp
  rcases h.bounds with ⟨m, hm, rfl⟩ | ⟨ds, es, min, max, rfl, hmin, hmax, rfl⟩
  · obtain ⟨j, hj⟩ := reads_bound (n := some m) hm _ hclose i
    rw [readRange_of_close hj]
    exact reads_rangeEnd hs start rest j
  · obtain ⟨j, hj⟩ := reads_bound hmin (',' :: (es ++ '\x7d' :: rest)) (by simp) i
    obtain ⟨k, hk⟩ := reads_bound hmax _ hclose (j + 1)
    rw [List.append_assoc, List.cons_append, readRange_of_comma hj hk]
    exact reads_rangeEnd hs start rest k

/-- How far a cursor has moved is known from the characters that it has passed. -/
theorem Cursor.Reaches.index_eq {a b : Cursor} (h : a.Reaches b) {used : List Char}
    (hused : a.rest = used ++ b.rest) : b.index = a.index + byteLength used := by
  obtain ⟨passed, hpassed, hindex⟩ := h
  rw [hindex, List.append_cancel_right (hpassed.symm.trans hused)]

/-- **Which texts are read as ranges**: those in one of the forms, up to the closing brace. -/
theorem readRange_eq_ok_iff {start : Nat} {cs : List Char} {i : Nat} {s : Span} {b : Cursor} :
    readRange start ⟨cs, i⟩ = .ok (s, b) ↔
      s.WellFormed ∧ ∃ text, ReadForm text s ∧ cs = text ++ '\x7d' :: b.rest ∧
        b.index = i + byteLength (text ++ ['\x7d']) := by
  constructor
  · intro h
    obtain ⟨text, hform, hcs⟩ := readRange_form h
    obtain rfl : cs = text ++ '\x7d' :: b.rest := hcs
    exact ⟨readRange_wellFormed h, text, hform, rfl, (readRange_reaches h).index_eq (by simp)⟩
  · rintro ⟨hs, text, hform, rfl, hindex⟩
    obtain ⟨rest, j⟩ := b
    obtain ⟨k, hk⟩ := reads_form hform hs start rest i
    have hkj : k = j := ((readRange_reaches hk).index_eq (by simp)).trans hindex.symm
    rw [hk, hkj]

/-! ## Texts that are refused -/

theorem readRangeEnd_eq_unclosed_iff {start : Nat} {min : UInt32} {max : Option UInt32}
    {a : Cursor} :
    readRangeEnd start min max a = .error (.unclosedRange start) ↔ a.rest = [] := by
  unfold readRangeEnd
  split
  · rename_i hr
    refine iff_of_false (fun h => ?_) (by simp [hr])
    have h := map_eq_error h
    unfold checkedSpan at h
    split at h
    · cases h
    · split at h <;> cases h
  · rename_i hr
    exact iff_of_false (by simp) (by simp [hr])
  · rename_i hr
    exact iff_of_true rfl hr

/-- **Which texts are refused as unclosed**: those that end inside of a range. -/
theorem readRange_eq_unclosed_iff {start : Nat} {cs : List Char} {i : Nat} :
    readRange start ⟨cs, i⟩ = .error (.unclosedRange start) ↔ EndsInRange cs := by
  constructor
  · intro h
    unfold readRange at h
    split at h
    · rename_i he
      cases (readNumber_eq_error he).symm.trans (Except.error.inj h)
    · rename_i min c hmin
      obtain ⟨ds, hds, hrest⟩ := readNumber_bound hmin
      refine ⟨ds, min, hds, ?_⟩
      split at h
      · rename_i rest hc
        split at h
        · rename_i he
          cases (readNumber_eq_error he).symm.trans (Except.error.inj h)
        · rename_i max d hmax
          obtain ⟨es, hes, hcs⟩ := readNumber_bound hmax
          have hd : d.rest = [] := readRangeEnd_eq_unclosed_iff.mp h
          obtain rfl : rest = es := hcs.trans (by rw [hd, List.append_nil])
          exact .inr ⟨rest, max, hes, hrest.trans (by rw [hc])⟩
      · rename_i rest hc
        split at h
        · exact absurd (readRangeEnd_eq_unclosed_iff.mp h) (by simp [hc])
        · cases h
      · cases h
      · rename_i hc
        exact .inl (hrest.trans (by rw [hc, List.append_nil]))
  · rintro ⟨ds, min, hds, rfl | ⟨es, max, hes, rfl⟩⟩
    · obtain ⟨j, hj⟩ := reads_bound hds [] (by simp) i
      rw [List.append_nil] at hj
      rw [readRange, hj]
    · obtain ⟨j, hj⟩ := reads_bound hds (',' :: es) (by simp) i
      obtain ⟨k, hk⟩ := reads_bound hes [] (by simp) (j + 1)
      rw [List.append_nil] at hk
      rw [readRange_of_comma hj hk]
      exact readRangeEnd_eq_unclosed_iff.mpr rfl

/-- A text is refused as a bad range, or as one that is not closed. -/
theorem readRange_eq_error {start : Nat} {a : Cursor} {f : Fault}
    (h : readRange start a = .error f) :
    (∃ r j, f = .invalidRange r j) ∨ f = .unclosedRange start := by
  unfold readRange at h
  split at h
  · rename_i he
    obtain rfl := Except.error.inj h
    exact .inl ⟨_, _, readNumber_eq_error he⟩
  · have hend {min : UInt32} {max : Option UInt32} {b : Cursor}
        (h : readRangeEnd start min max b = .error f) :
        (∃ r j, f = .invalidRange r j) ∨ f = .unclosedRange start :=
      (readRangeEnd_error h).symm.imp_left fun ⟨r, _, hf⟩ => ⟨r, start, hf⟩
    split at h
    · split at h
      · rename_i he
        obtain rfl := Except.error.inj h
        exact .inl ⟨_, _, readNumber_eq_error he⟩
      · exact hend h
    · split at h
      · exact hend h
      · exact .inl ⟨_, _, (Except.error.inj h).symm⟩
    · exact .inl ⟨_, _, (Except.error.inj h).symm⟩
    · exact .inr (Except.error.inj h).symm

/-! ## Ranges after an element -/

variable {s : ParseState} {e : Element}

/-- The state after an element is repeated. -/
def ParseState.repeated (s : ParseState) (e : Element) (q : Quantifier) : ParseState :=
  { s with elements := .repetition e q :: s.elements, mode := .ready }

theorem parseStep_brace (hs : s.mode = .complete e) (cs : List Char) (i : Nat) :
    parseStep s '\x7b' cs i =
      (readRange i ⟨cs, i + 1⟩).map fun span => s.repeated e (.range span) := by
  unfold parseStep
  rw [hs]
  show Reading.map _ (Reading.map _ (readRange i ⟨cs, i + 1⟩)) = _
  cases readRange i ⟨cs, i + 1⟩ with
  | error f => rfl
  | ok x => rfl

/-- **Ranges after an element.** The range is read if the text begins with one of the documented
forms and a closing brace, its upper bound is not zero and its lower bound does not exceed it; the
element is then repeated within these bounds, and reading goes on after the brace. A comma alone is
read as well, as a range without bounds. Every other text is refused as a bad range or as an
unclosed one, and the latter just when it ends inside of a range. -/
theorem parseStep_range (hs : s.mode = .complete e) (cs : List Char) (i : Nat) :
    (∀ (s' : ParseState) (b : Cursor), parseStep s '\x7b' cs i = .ok (s', b) ↔
      ∃ (text : List Char) (span : Span),
        (RangeForm text span ∨ text = [','] ∧ span = ⟨0, none⟩) ∧ span.WellFormed ∧
        cs = text ++ '\x7d' :: b.rest ∧ b.index = i + byteLength ('\x7b' :: text ++ ['\x7d']) ∧
        s' = s.repeated e (.range span)) ∧
    (∀ f, parseStep s '\x7b' cs i = .error f →
      (∃ r j, f = .invalidRange r j) ∨ f = .unclosedRange i) ∧
    (parseStep s '\x7b' cs i = .error (.unclosedRange i) ↔ EndsInRange cs) := by
  rw [parseStep_brace hs]
  refine ⟨fun s' b => ⟨fun h => ?_, ?_⟩, fun f h => ?_, ⟨fun h => ?_, fun h => ?_⟩⟩
  · obtain ⟨span, hspan, rfl⟩ := Reading.map_eq_ok h
    obtain ⟨hwf, text, hform, hcs, hindex⟩ := readRange_eq_ok_iff.mp hspan
    refine ⟨text, span, hform, hwf, hcs, ?_, rfl⟩
    rw [hindex, Nat.add_assoc]
    rfl
  · rintro ⟨text, span, hform, hwf, hcs, hindex, rfl⟩
    have hspan : readRange i ⟨cs, i + 1⟩ = .ok (span, b) :=
      readRange_eq_ok_iff.mpr ⟨hwf, text, hform, hcs, by rw [hindex, Nat.add_assoc]; rfl⟩
    rw [hspan]
    rfl
  · exact readRange_eq_error (Reading.map_eq_error h)
  · exact readRange_eq_unclosed_iff.mp (Reading.map_eq_error h)
  · rw [readRange_eq_unclosed_iff.mpr h]
    rfl

/-- A range with two bounds, one of them with a leading zero, is read up to its brace; without the
brace and the second bound it is not closed. -/
theorem parseStep_range_between :
    let s : ParseState := { mode := .complete (.anchor .start) }
    RangeForm ['0', '2', ',', '7'] ⟨2, some 7⟩ ∧
    parseStep s '\x7b' ['0', '2', ',', '7', '\x7d', 'x'] 0 =
      .ok (s.repeated (.anchor .start) (.range ⟨2, some 7⟩), ⟨['x'], 6⟩) ∧
    parseStep s '\x7b' ['0', '2', ','] 0 = .error (.unclosedRange 0) := by
  intro s
  have hform : RangeForm (['0', '2'] ++ ',' :: ['7']) ⟨2, some 7⟩ :=
    .between ⟨by simp, by simp, rfl⟩ ⟨by simp, by simp, rfl⟩
  have hwf : Span.WellFormed ⟨2, some 7⟩ := ⟨by decide, by simp⟩
  refine ⟨hform, ?_, ?_⟩
  · exact ((parseStep_range (s := s) rfl _ 0).1 _ _).mpr ⟨_, _, .inl hform, hwf, rfl, rfl, rfl⟩
  · refine (parseStep_range (s := s) rfl _ 0).2.2.mpr ⟨['0', '2'], some 2, ?_, .inr ?_⟩
    · exact ⟨by simp, by simp, rfl⟩
    · exact ⟨[], none, rfl, rfl⟩

/-- A comma alone is in none of the documented forms. -/
theorem not_rangeForm_comma (span : Span) : ¬ RangeForm [','] span := by
  intro h
  generalize htext : [','] = text at h
  cases h with
  | exactly hm =>
    subst htext
    exact absurd (hm.isDigit ',' List.mem_cons_self) (by decide)
  | @atLeast ds m hm => exact hm.ne_nil (by simpa using htext)
  | @atMost ds n hn => exact hn.ne_nil (by simpa using htext)
  | @between ds es m n hm hn => exact hn.ne_nil (by cases ds <;> simp_all)

/-- **Not only the documented forms are read**: a comma without a bound on either side is, too. -/
theorem not_forall_parseStep_rangeForm :
    ¬ ∀ (s : ParseState) (e : Element) (cs : List Char) (i : Nat), s.mode = .complete e →
      ((∃ x, parseStep s '\x7b' cs i = .ok x) ↔
        ∃ (text : List Char) (span : Span) (rest : List Char),
          RangeForm text span ∧ span.WellFormed ∧ cs = text ++ '\x7d' :: rest) := by
  intro h
  have hread := h { mode := .complete (.anchor .start) } (.anchor .start) [',', '\x7d'] 0 rfl
  obtain ⟨text, span, rest, hform, -, hcs⟩ := hread.mp ⟨_, rfl⟩
  obtain rfl : text = [','] := by
    match text, hcs with
    | [c], hcs => simpa using (List.cons.inj hcs).1.symm
    | c :: d :: text, hcs => simp at hcs
  exact not_rangeForm_comma span hform

end Motif.Pattern
