import Motif.Proofs.Notation.Compose
import Motif.Proofs.Notation.Ranges

/-!
# Faults that stay (specification §7, E1.1)

Some faults are found at a character that is already there: the pattern is wrong whatever comes
after it. A pattern with such a fault keeps it, at the same index, when its text goes on. Reading is
settled if it stops before the end of the text or at a fault of this kind; all readers read the same
in a longer text where they are settled, and none is settled that has nothing left to read.

Out of scope: faults that what follows may mend, such as a bracket that is not closed yet, and those
of regular expressions, which are found when all has been read.

* `Fault.isDefinite`: the faults that stay.
* `Reading.Persists`: what is settled is read in a longer text as well.
* `persists_tokenTest`, `persists_range`, `persists_step`: so it is with tests, ranges and steps.
* **`parse_append_error`**: a pattern keeps its fault whatever follows.
-/

namespace Motif.Pattern

/-- Whether a fault stays, whatever text follows. -/
def Fault.isDefinite : Fault → Bool
  | emptyGroup _ | emptyAlternation _ | unexpectedClosing .. | mismatchedClosing ..
  | unknownEscape .. | unknownRegexFlag .. | danglingQuantifier .. | invalidRange .. | tooDeep _ =>
    true
  | emptyPattern | unclosedBracket .. | unclosedText _ | loneEscape _ | unclosedRegex _
  | invalidRegex .. | unknownKind .. | emptyName _ | missingValue .. | unclosedRange _
  | danglingNegation _ => false

namespace Reading

variable {α β : Type} {rest : List Char}

/-- Reads on with `f` from where `r` ended. -/
def andThen (r : Reading α) (f : α → Cursor → Reading β) : Reading β :=
  match r with
  | .error e => .error e
  | .ok (v, b) => f v b

/-- Reading stopped before the end of the text, or at a fault that stays. -/
def Settled : Reading α → Prop
  | .ok (_, b) => b.rest ≠ []
  | .error f => f.isDefinite = true

/-- The same result in a text that goes on with `rest`. -/
def followed (rest : List Char) (r : Reading α) : Reading α :=
  Except.map (Prod.map id (Cursor.within 0 rest)) r

/-- What `r` reads if it is settled, `r'` reads in a text that goes on with `rest`. -/
def Persists (rest : List Char) (r r' : Reading α) : Prop :=
  r.Settled → r' = r.followed rest

theorem persists_ok (v : α) (b : Cursor) :
    Persists rest (.ok (v, b)) (.ok (v, b.within 0 rest)) :=
  fun _ => rfl

theorem persists_error (f : Fault) : Persists (α := α) rest (.error f) (.error f) :=
  fun _ => rfl

/-- What is not settled may become anything when the text goes on. -/
theorem persists_of_not_settled {r r' : Reading α} (h : ¬ r.Settled) : Persists rest r r' :=
  fun hr => absurd hr h

/-- Whether a reading is settled does not depend on the value made of it. -/
theorem settled_map {r : Reading α} {f : α → β} : (r.map f).Settled ↔ r.Settled := by
  rcases r with e | ⟨v, b⟩ <;> rfl

/-- Nor does whether it persists. -/
theorem Persists.map {r r' : Reading α} (h : Persists rest r r') (f : α → β) :
    Persists rest (r.map f) (r'.map f) := by
  intro hr
  rw [h (settled_map.mp hr)]
  rcases r with e | ⟨v, b⟩ <;> rfl

/-- One reading after another persists if both do and the second is not settled where nothing is
left. -/
theorem Persists.andThen {r r' : Reading α} {f : α → Cursor → Reading β} (h : Persists rest r r')
    (hf : ∀ v b, Persists rest (f v b) (f v (b.within 0 rest)))
    (hend : ∀ v b, b.rest = [] → ¬ (f v b).Settled) :
    Persists rest (r.andThen f) (r'.andThen f) := by
  intro hr
  match r, h, hr with
  | .error e, h, hr =>
    rw [h hr]
    rfl
  | .ok (v, b), h, hr =>
    have hb : b.rest ≠ [] := fun hb => hend v b hb hr
    rw [h hb]
    exact hf v b hr

/-- A result that has nothing to do with the text. -/
theorem persists_const (r : Except Fault α) (i : Nat) (c : Char) (cs : List Char) :
    Persists rest (r.map (·, Cursor.past i c cs)) (r.map (·, Cursor.past i c (cs ++ rest))) := by
  intro _
  cases r <;> rfl

end Reading

open Reading

variable {rest : List Char} {a : Cursor}

/-- What satisfies `p` ends where it did, if something else comes after it. -/
theorem takeWhile_within_of_ne_nil {p : Char → Bool} (h : (a.dropWhile p).rest ≠ [])
    (rest : List Char) :
    (a.within 0 rest).takeWhile p = a.takeWhile p ∧
      (a.within 0 rest).dropWhile p = (a.dropWhile p).within 0 rest := by
  have hdrop : (a.rest ++ rest).dropWhile p = a.rest.dropWhile p ++ rest := by
    have hne : ¬ (a.rest.dropWhile p).isEmpty = true := fun hnil => h (List.isEmpty_iff.mp hnil)
    rw [List.dropWhile_append, if_neg hne]
  have htake : (a.rest ++ rest).takeWhile p = a.rest.takeWhile p := by
    refine (List.append_left_inj (a.rest.dropWhile p ++ rest)).mp ?_
    rw [← hdrop, List.takeWhile_append_dropWhile, hdrop, ← List.append_assoc,
      List.takeWhile_append_dropWhile]
  refine ⟨htake, ?_⟩
  rw [Cursor.dropWhile, Cursor.dropWhile, Cursor.within, Cursor.within, htake, hdrop]
  rfl

theorem rest_ne_nil_of_dropWhile {p : Char → Bool} (h : (a.dropWhile p).rest ≠ []) :
    a.rest ≠ [] := by
  intro hnil
  exact h (by rw [Cursor.dropWhile, hnil]; rfl)

/-- Where something is left, the next character is the same when the text goes on. -/
theorem head?_within (h : a.rest ≠ []) (k : Nat) (rest : List Char) :
    (a.within k rest).rest.head? = a.rest.head? :=
  List.head?_append_of_ne_nil _ h

/-- A text goes on with `c`, or its first character is another one. -/
theorem eq_cons_or_head?_ne (c : Char) (cs : List Char) :
    (∃ ds, cs = c :: ds) ∨ ∀ d ∈ cs.head?, d ≠ c := by
  by_cases h : ∃ ds, cs = c :: ds
  · exact .inl h
  · refine .inr ?_
    rintro d hd rfl
    exact h (List.head?_eq_some_iff.mp hd)

/-! ## Literals -/

/-- A quoted text that is closed, or has a bad escape, stays so. -/
theorem persists_text (start : Nat) (cs : List Char) (i : Nat) :
    Persists rest (readText start cs i) (readText start (cs ++ rest) i) := by
  fun_induction readText start cs i with
  | case1 | case3 => exact persists_of_not_settled Bool.false_ne_true
  | case2 cs i =>
    rw [List.cons_append, readText]
    exact persists_ok _ _
  | case4 e cs i c he ih =>
    rw [List.cons_append, List.cons_append, readText, he]
    exact ih.map _
  | case5 e cs i he =>
    rw [List.cons_append, List.cons_append, readText, he]
    exact persists_error _
  | case6 c cs i hq hlast hpair ih =>
    have hc := ne_backslash hlast hpair
    rw [List.cons_append, readText]
    · exact ih.map _
    · exact hq
    all_goals simp [hc]

/-- So does the source of a literal. -/
theorem persists_source (start : Nat) (cs : List Char) (i : Nat) :
    Persists rest (readSource start cs i) (readSource start (cs ++ rest) i) := by
  fun_induction readSource start cs i with
  | case1 | case3 => exact persists_of_not_settled Bool.false_ne_true
  | case2 cs i =>
    rw [List.cons_append, readSource]
    exact persists_ok _ _
  | case4 cs i ih =>
    rw [List.cons_append, List.cons_append, readSource]
    exact ih.map _
  | case5 e cs i he ih =>
    rw [List.cons_append, List.cons_append, readSource]
    · exact ih.map _
    · exact he
  | case6 c cs i hq hlast _ hpair ih =>
    have hc := ne_backslash hlast hpair
    rw [List.cons_append, readSource]
    · exact ih.map _
    · exact hq
    all_goals simp [hc]

/-- Flags go on with the text unless a character ends them. An unknown or repeated flag is found
where it stands. -/
theorem persists_flags (seen cs : List Char) (i : Nat) :
    Persists rest (readFlags seen cs i) (readFlags seen (cs ++ rest) i) := by
  fun_induction readFlags seen cs i with
  | case1 => exact persists_of_not_settled (· rfl)
  | case2 seen c cs i halpha hc ih =>
    rw [List.cons_append, readFlags, if_pos halpha, if_pos hc]
    exact ih.map _
  | case3 seen c cs i halpha hc =>
    rw [List.cons_append, readFlags, if_pos halpha, if_neg hc]
    exact persists_error _
  | case4 seen c cs i halpha =>
    rw [List.cons_append, readFlags, if_neg halpha]
    exact persists_ok _ _

/-- A literal is its source, and then its flags. -/
theorem readRegex_eq_andThen (start : Nat) (cs : List Char) (i : Nat) :
    readRegex start cs i = (readSource start cs i).andThen fun source a =>
      (readFlags [] a.rest a.index).map fun flags => ⟨.ofList source, .ofList flags, start⟩ := by
  rw [readRegex]
  cases readSource start cs i <;> rfl

/-- A literal persists, since its flags begin only where its source is closed. -/
theorem persists_regex (start : Nat) (cs : List Char) (i : Nat) :
    Persists rest (readRegex start cs i) (readRegex start (cs ++ rest) i) := by
  rw [readRegex_eq_andThen, readRegex_eq_andThen]
  refine (persists_source start cs i).andThen (fun _ b => (persists_flags [] _ _).map _) ?_
  intro _ b hb hsettled
  rw [hb, settled_map] at hsettled
  exact hsettled rfl

/-! ## Tests -/

/-- An expected value persists once it is known where it ends. -/
theorem persists_expected (name : String) (nameAt : Nat) (a : Cursor) :
    Persists rest (readExpected name nameAt a) (readExpected name nameAt (a.within 0 rest)) := by
  obtain ⟨cs, i⟩ := a
  obtain ⟨ds, rfl⟩ | hquote := eq_cons_or_head?_ne '\'' cs
  · exact (persists_text i ds (i + 1)).map _
  obtain ⟨ds, rfl⟩ | hslash := eq_cons_or_head?_ne '/' cs
  · exact (persists_regex i ds (i + 1)).map _
  have hhead : ∀ c ∈ cs.head?, c ≠ '\'' ∧ c ≠ '/' := fun c hc => ⟨hquote c hc, hslash c hc⟩
  rw [readExpected_of_ne hhead]
  split
  · exact persists_of_not_settled Bool.false_ne_true
  · rename_i hne
    intro hdrop
    obtain ⟨htake', hdrop'⟩ := takeWhile_within_of_ne_nil hdrop rest
    rw [← head?_within (a := ⟨cs, i⟩) (rest_ne_nil_of_dropWhile hdrop) 0 rest] at hhead
    rw [readExpected_of_ne hhead, htake', hdrop', if_neg hne]
    rfl

theorem readConstraint_of_eq {cs : List Char} {j : Nat} (hne : a.takeWhile (!endsName ·) ≠ [])
    (hdrop : a.dropWhile (!endsName ·) = ⟨'=' :: cs, j⟩) :
    readConstraint a =
      (readExpected (.ofList (a.takeWhile (!endsName ·))) a.index (.past j '=' cs)).map
        (⟨.ofList (a.takeWhile (!endsName ·)), ·⟩) := by
  rw [readConstraint, hdrop, if_neg hne]
  rfl

/-- A constraint persists. -/
theorem persists_constraint (a : Cursor) :
    Persists rest (readConstraint a) (readConstraint (a.within 0 rest)) := by
  by_cases hne : a.takeWhile (!endsName ·) = []
  · have hempty : readConstraint a = .error (.emptyName a.index) := if_pos hne
    rw [hempty]
    exact persists_of_not_settled Bool.false_ne_true
  rcases hb : a.dropWhile (!endsName ·) with ⟨cs, j⟩
  obtain ⟨ds, rfl⟩ | hhead := eq_cons_or_head?_ne '=' cs
  · obtain ⟨htake, hdrop⟩ := takeWhile_within_of_ne_nil (by rw [hb]; simp) rest
    rw [hb] at hdrop
    rw [readConstraint_of_eq hne hb, readConstraint_of_eq (by rwa [htake]) hdrop, htake]
    exact (persists_expected _ _ _).map _
  · rw [readConstraint_of_name rfl hne hb hhead]
    intro hcs
    obtain ⟨htake, hdrop⟩ := takeWhile_within_of_ne_nil (by rwa [hb]) rest
    rw [hb] at hdrop
    rw [← head?_within (a := ⟨cs, j⟩) hcs 0 rest] at hhead
    exact readConstraint_of_name htake hne hdrop hhead

theorem readConstraints_comma (cs : List Char) (i : Nat) :
    readConstraints ⟨',' :: cs, i⟩ = (readConstraint (.past i ',' cs)).andThen fun c b =>
      (readConstraints b).map (c :: ·) := by
  rw [readConstraints]
  split
  · rename_i ds hds
    obtain ⟨-, rfl⟩ := List.cons_eq_cons.mp hds
    split
    · rename_i hc
      rw [hc]
      rfl
    · rename_i hc
      rw [hc]
      rfl
  · rename_i hne
    exact absurd rfl (hne cs)

/-- No constraints are read where nothing is left. -/
theorem not_settled_constraints (h : a.rest = []) : ¬ (readConstraints a).Settled := by
  obtain ⟨cs, i⟩ := a
  obtain rfl : cs = [] := h
  rw [readConstraints_of_ne (by simp)]
  exact fun hne => hne rfl

/-- So do constraints, of which the last one has to be followed by something else than a comma. -/
theorem persists_constraints (a : Cursor) :
    Persists rest (readConstraints a) (readConstraints (a.within 0 rest)) := by
  fun_induction readConstraints a with
  | case1 a cs hr e he =>
    obtain ⟨_, i⟩ := a
    obtain rfl : _ = ',' :: cs := hr
    intro hsettled
    have hpersists : Persists rest (readConstraint (.past i ',' cs))
        (readConstraint (.past i ',' (cs ++ rest))) := persists_constraint _
    rw [show readConstraint (.past i ',' cs) = .error e from he] at hpersists
    have hc : readConstraint (.past i ',' (cs ++ rest)) = .error e := hpersists hsettled
    show readConstraints ⟨',' :: (cs ++ rest), i⟩ = .error e
    rw [readConstraints_comma, hc]
    rfl
  | case2 a cs hr c b hc ih =>
    obtain ⟨_, i⟩ := a
    obtain rfl : _ = ',' :: cs := hr
    intro hsettled
    have hb : b.rest ≠ [] := fun hb => not_settled_constraints hb (settled_map.mp hsettled)
    have hpersists : Persists rest (readConstraint (.past i ',' cs))
        (readConstraint (.past i ',' (cs ++ rest))) := persists_constraint _
    rw [show readConstraint (.past i ',' cs) = .ok (c, b) from hc] at hpersists
    have hc' : readConstraint (.past i ',' (cs ++ rest)) = .ok (c, b.within 0 rest) := hpersists hb
    show readConstraints ⟨',' :: (cs ++ rest), i⟩ = _
    rw [readConstraints_comma, hc']
    exact ih.map _ hsettled
  | case3 a hr =>
    intro hne
    refine readConstraints_of_ne ?_ _
    show ∀ c ∈ (a.within 0 rest).rest.head?, c ≠ ','
    rw [head?_within hne]
    rintro c hc rfl
    obtain ⟨cs, hcs⟩ := List.head?_eq_some_iff.mp hc
    exact hr cs hcs

/-- A test with a text is the name of a kind, the text, and the constraints after it. -/
theorem readTokenTest_of_eq {kind : Option Token.Kind} {cs : List Char} {j : Nat}
    (hkind : kindNamed? (.ofList (a.takeWhile (!endsName ·))) = some kind)
    (hdrop : a.dropWhile (!endsName ·) = ⟨'=' :: cs, j⟩) :
    readTokenTest a =
      (readExpected Token.textName a.index (.past j '=' cs)).andThen fun v c =>
        (readConstraints c).map fun cs => ⟨kind, ⟨Token.textName, v⟩ :: cs⟩ := by
  rw [readTokenTest]
  simp only [hkind, hdrop]
  cases readExpected Token.textName a.index (.past j '=' cs) <;> rfl

/-- A test of a token persists. -/
theorem persists_tokenTest (a : Cursor) :
    Persists rest (readTokenTest a) (readTokenTest (a.within 0 rest)) := by
  cases hkind : kindNamed? (.ofList (a.takeWhile (!endsName ·))) with
  | none =>
    have hunknown : readTokenTest a =
        .error (.unknownKind (.ofList (a.takeWhile (!endsName ·))) a.index) := by
      rw [readTokenTest]
      simp only [hkind]
    rw [hunknown]
    exact persists_of_not_settled Bool.false_ne_true
  | some kind =>
    rcases hb : a.dropWhile (!endsName ·) with ⟨cs, j⟩
    obtain ⟨ds, rfl⟩ | hhead := eq_cons_or_head?_ne '=' cs
    · obtain ⟨htake, hdrop⟩ := takeWhile_within_of_ne_nil (by rw [hb]; simp) rest
      rw [hb] at hdrop
      rw [readTokenTest_of_eq hkind hb, readTokenTest_of_eq (by rwa [htake]) hdrop]
      refine (persists_expected _ _ _).andThen (fun _ c => (persists_constraints c).map _) ?_
      exact fun _ c hc hsettled => not_settled_constraints hc (settled_map.mp hsettled)
    · rw [readTokenTest_of_ne hkind hb hhead]
      intro hsettled
      have hcs : cs ≠ [] := fun hcs => not_settled_constraints hcs (settled_map.mp hsettled)
      obtain ⟨htake, hdrop⟩ := takeWhile_within_of_ne_nil (by rwa [hb]) rest
      rw [hb] at hdrop
      rw [← head?_within (a := ⟨cs, j⟩) hcs 0 rest] at hhead
      rw [readTokenTest_of_ne (by rwa [htake]) hdrop hhead]
      exact (persists_constraints _).map _ hsettled

/-! ## Ranges -/

/-- A number does not get smaller if digits are added to it. -/
theorem decimalValue_le_append (ds es : List Char) : decimalValue ds ≤ decimalValue (ds ++ es) := by
  rw [decimalValue, decimalValue, List.foldl_append]
  generalize ds.foldl _ 0 = n
  induction es generalizing n with
  | nil => exact Nat.le_refl n
  | cons e es ih => exact Nat.le_trans (by omega) (ih (10 * n + (e.toNat - '0'.toNat)))

/-- What satisfies `p` may go on in the longer text. -/
theorem takeWhile_prefix_within (p : Char → Bool) (a : Cursor) (rest : List Char) :
    a.takeWhile p <+: (a.within 0 rest).takeWhile p := by
  show a.rest.takeWhile p <+: (a.rest ++ rest).takeWhile p
  rw [List.takeWhile_append]
  split
  · exact (List.takeWhile_prefix p).trans (List.prefix_append _ _)
  · exact List.prefix_rfl

/-- A number that is too large stays too large, also where more digits follow. -/
theorem readNumber_tooLarge_within (hne : a.takeWhile Char.isDigit ≠ [])
    (hlarge : ¬ decimalValue (a.takeWhile Char.isDigit) < UInt32.size) (rest : List Char) :
    readNumber (a.within 0 rest) = .error (.invalidRange .tooLarge a.index) := by
  obtain ⟨es, hes⟩ := takeWhile_prefix_within Char.isDigit a rest
  have hne' : (a.within 0 rest).takeWhile Char.isDigit ≠ [] := by
    rw [← hes]
    exact fun h => hne (List.append_eq_nil_iff.mp h).1
  have hle := decimalValue_le_append (a.takeWhile Char.isDigit) es
  rw [hes] at hle
  rw [readNumber, if_neg hne', if_neg (by omega)]
  rfl

/-- A number that is too large stays so with more digits. -/
theorem persists_number (a : Cursor) :
    Persists rest (readNumber a) (readNumber (a.within 0 rest)) := by
  by_cases hdrop : (a.dropWhile Char.isDigit).rest = []
  · rw [readNumber]
    split
    · exact persists_of_not_settled (· hdrop)
    · rename_i hne
      split
      · exact persists_of_not_settled (· hdrop)
      · rename_i hlarge
        exact fun _ => readNumber_tooLarge_within hne hlarge rest
  · obtain ⟨htake, hdrop⟩ := takeWhile_within_of_ne_nil hdrop rest
    rw [readNumber, readNumber]
    simp only [htake, hdrop]
    split
    · exact persists_ok _ _
    · split
      · exact persists_ok _ _
      · exact persists_error _

theorem readRangeEnd_of_ne {c : Char} (hc : c ≠ '\x7d') (start : Nat) (min : UInt32)
    (max : Option UInt32) (cs : List Char) (i : Nat) :
    readRangeEnd start min max ⟨c :: cs, i⟩ = .error (.invalidRange .notDecimal start) := by
  unfold readRangeEnd
  split
  · rename_i hr
    exact absurd (List.cons.inj hr).1 hc
  · rfl
  · rename_i hr
    cases hr

/-- The end of a range is one character, or it is missing. -/
theorem persists_rangeEnd (start : Nat) (min : UInt32) (max : Option UInt32) (a : Cursor) :
    Persists rest (readRangeEnd start min max a)
      (readRangeEnd start min max (a.within 0 rest)) := by
  obtain ⟨cs, i⟩ := a
  cases cs with
  | nil => exact persists_of_not_settled Bool.false_ne_true
  | cons c cs =>
    by_cases hc : c = '\x7d'
    · subst hc
      exact persists_const _ i _ cs
    · rw [readRangeEnd_of_ne hc]
      exact fun _ => readRangeEnd_of_ne hc _ _ _ _ _

/-- Reads on after the first number of a range, if there was one. -/
def readRangeRest (start : Nat) (min : Option UInt32) (b : Cursor) : Reading Span :=
  match b.rest with
  | ',' :: cs =>
    (readNumber (.past b.index ',' cs)).andThen (readRangeEnd start (min.getD 0))
  | '\x7d' :: _ =>
    match min with
    | some count => readRangeEnd start count (some count) b
    | none => .error (.invalidRange .noCount start)
  | _ :: _ => .error (.invalidRange .notDecimal start)
  | [] => .error (.unclosedRange start)

theorem readRangeRest_of_ne {c : Char} (hcomma : c ≠ ',') (hclose : c ≠ '\x7d') (start : Nat)
    (min : Option UInt32) (cs : List Char) (i : Nat) :
    readRangeRest start min ⟨c :: cs, i⟩ = .error (.invalidRange .notDecimal start) := by
  unfold readRangeRest
  split
  · rename_i hr
    exact absurd (List.cons.inj hr).1 hcomma
  · rename_i hr
    exact absurd (List.cons.inj hr).1 hclose
  · rfl
  · rename_i hr
    cases hr

/-- A range is a number, if there is one, and what follows it. -/
theorem readRange_eq_andThen (start : Nat) (a : Cursor) :
    readRange start a = (readNumber a).andThen (readRangeRest start) := by
  unfold readRange
  split
  · rename_i h
    rw [h]
    rfl
  · rename_i min b h
    rw [h]
    show _ = readRangeRest start min b
    obtain ⟨cs, i⟩ := b
    cases cs with
    | nil => rfl
    | cons c cs =>
      by_cases hcomma : c = ','
      · subst hcomma
        show _ = (readNumber (.past i ',' cs)).andThen (readRangeEnd start (min.getD 0))
        simp only
        cases readNumber (.past i ',' cs) <;> rfl
      by_cases hclose : c = '\x7d'
      · subst hclose
        cases min <;> rfl
      · rw [readRangeRest_of_ne hcomma hclose]
        simp only

theorem persists_rangeRest (start : Nat) (min : Option UInt32) (b : Cursor) :
    Persists rest (readRangeRest start min b) (readRangeRest start min (b.within 0 rest)) := by
  obtain ⟨cs, i⟩ := b
  cases cs with
  | nil => exact persists_of_not_settled Bool.false_ne_true
  | cons c cs =>
    by_cases hcomma : c = ','
    · subst hcomma
      refine (persists_number (.past i ',' cs)).andThen
        (fun max b => persists_rangeEnd start (min.getD 0) max b) fun max b hb => ?_
      rw [readRangeEnd_eq_unclosed_iff.mpr hb]
      exact Bool.false_ne_true
    by_cases hclose : c = '\x7d'
    · subst hclose
      cases min with
      | none => exact persists_error _
      | some count => exact persists_rangeEnd start count (some count) ⟨'\x7d' :: cs, i⟩
    · rw [readRangeRest_of_ne hcomma hclose]
      exact fun _ => readRangeRest_of_ne hcomma hclose _ _ _ _

/-- A range persists. -/
theorem persists_range (start : Nat) (a : Cursor) :
    Persists rest (readRange start a) (readRange start (a.within 0 rest)) := by
  rw [readRange_eq_andThen, readRange_eq_andThen]
  refine (persists_number a).andThen (persists_rangeRest start) fun min b hb => ?_
  obtain ⟨_, _⟩ := b
  obtain rfl : _ = [] := hb
  exact Bool.false_ne_true

/-- So does a quantifier. -/
theorem persists_quantifier (c : Char) (cs : List Char) (i : Nat) :
    Persists rest (readQuantifier c cs i) (readQuantifier c (cs ++ rest) i) := by
  unfold readQuantifier
  split
  case h_4 => exact (persists_range i (.past i c cs)).map _
  all_goals exact persists_ok _ _

/-! ## Steps and whole patterns -/

variable {s : ParseState} {c : Char} {cs : List Char} {i : Nat} {f : Fault}

/-- A step persists where an element is due, by the cases of the character it begins with. -/
theorem persists_element (s : ParseState) (c : Char) (cs : List Char) (i : Nat) :
    Persists rest (stepElement s c cs i) (stepElement s c (cs ++ rest) i) := by
  unfold stepElement
  dsimp only
  split
  case h_1 | h_2 | h_3 => exact persists_const _ i _ cs
  case h_4 | h_5 => exact persists_ok _ _
  case h_6 => exact (persists_text i cs _).map _
  case h_7 => exact (persists_regex i cs _).map _
  case h_8 =>
    split
    · exact persists_error _
    · exact (persists_tokenTest ⟨c :: cs, i⟩).map _

/-- It persists between elements too. -/
theorem persists_between (s : ParseState) (c : Char) (cs : List Char) (i : Nat) :
    Persists rest (stepBetween s c cs i) (stepBetween s c (cs ++ rest) i) := by
  unfold stepBetween
  split
  · exact persists_ok _ _
  · split
    · exact persists_const _ i c cs
    · exact persists_element s c cs i

/-- **A step** that is settled is the same in a longer text. -/
theorem persists_step (s : ParseState) (c : Char) (cs : List Char) (i : Nat) :
    Persists rest (parseStep s c cs i) (parseStep s c (cs ++ rest) i) := by
  unfold parseStep
  split
  · split
    · exact persists_error _
    · exact persists_element s c cs i
  · split
    · exact (persists_quantifier c cs i).map _
    · exact persists_between s c cs i
  · exact persists_between s c cs i

theorem parseFrom_of_error (h : parseStep s c cs i = .error f) :
    parseFrom s ⟨c :: cs, i⟩ = .error f := by
  rw [parseFrom]
  split
  · rename_i hr
    cases hr
  · rename_i hr
    obtain ⟨rfl, rfl⟩ := List.cons_eq_cons.mp hr
    split
    · rename_i hs
      rw [Except.error.inj (hs.symm.trans h)]
    · rename_i hs
      cases hs.symm.trans h

/-- What is wrong where a text ends may be put right by what follows. -/
theorem ParseState.isDefinite_of_finish (h : s.finish = .error f) : f.isDefinite = false := by
  unfold finish at h
  split at h
  · obtain rfl := Except.error.inj h
    rfl
  · obtain rfl := Except.error.inj h
    rfl
  · split at h
    · obtain rfl := Except.error.inj h
      rfl
    · cases h

/-- A definite fault is met in a step, and that step is made the same when the text goes on. -/
theorem parseFrom_error_within (h : parseFrom s a = .error f) (hf : f.isDefinite = true)
    (rest : List Char) : parseFrom s (a.within 0 rest) = .error f := by
  fun_induction parseFrom s a with
  | case1 s a hr => exact absurd (ParseState.isDefinite_of_finish h) (by simp [hf])
  | case2 s a c cs hr e he =>
    obtain rfl := Except.error.inj h
    obtain ⟨_, i⟩ := a
    obtain rfl : _ = c :: cs := hr
    have hstep : Persists rest (parseStep s c cs i) (parseStep s c (cs ++ rest) i) :=
      persists_step s c cs i
    rw [he] at hstep
    exact parseFrom_of_error (hstep hf)
  | case3 s a c cs hr s' b hstep ih =>
    obtain ⟨_, i⟩ := a
    obtain rfl : _ = c :: cs := hr
    -- Where the text ends after the step, no fault is found that stays.
    have hb : b.rest ≠ [] := by
      intro hb
      obtain ⟨_, j⟩ := b
      obtain rfl : _ = [] := hb
      rw [parseFrom_nil] at h
      exact absurd (ParseState.isDefinite_of_finish h) (by simp [hf])
    have hpersists : Persists rest (parseStep s c cs i) (parseStep s c (cs ++ rest) i) :=
      persists_step s c cs i
    rw [hstep] at hpersists
    have hstep' : parseStep s c (cs ++ rest) i = .ok (s', b.within 0 rest) := hpersists hb
    exact (parseFrom_cons hstep').trans (ih h)

/-- **A definite fault stays.** A pattern that is refused for what stands at some place in it, or
for brackets that do not match or hold nothing, is refused with the same fault, at the same index,
whatever text follows. -/
theorem parse_append_error {p : String} (h : parse p = .error f) (hf : f.isDefinite = true)
    (s : String) : parse (p ++ s) = .error f := by
  have hcursor : Cursor.ofString (p ++ s) = (Cursor.ofString p).within 0 s.toList := by
    rw [Cursor.ofString, String.toList_append]
    rfl
  rw [parse, hcursor]
  exact parseFrom_error_within h hf s.toList

/-- A bound that is too large, after a character of more than one byte, gets another digit; and a
group that holds nothing is followed by another fault. -/
theorem parse_append_error_bound :
    parse "'é' /b/\x7b4294967296" = .error (.invalidRange .tooLarge 9) ∧
    parse ("'é' /b/\x7b4294967296" ++ "0\x7d") = .error (.invalidRange .tooLarge 9) ∧
    parse ("[()" ++ "?]'") = .error (.emptyGroup 1) := by
  have hbound : parse "'é' /b/\x7b4294967296" = .error (.invalidRange .tooLarge 9) := by cbv
  have hgroup : parse "[()" = .error (.emptyGroup 1) := by cbv
  exact ⟨hbound, parse_append_error hbound rfl "0\x7d", parse_append_error hgroup rfl "?]'"⟩

end Motif.Pattern
