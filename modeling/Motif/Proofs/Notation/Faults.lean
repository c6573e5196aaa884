import Motif.Compile
import Motif.Proofs.Notation.Image
import Motif.Regex.Standard

/-!
# Where faults are (specification §7, E1.1)

The index of a fault is that of a character of the pattern, and the fault is about what stands
there. Indices that are taken early are kept with what was found there: the quote or the slash of a
literal and the brace of a range while it is read, the opening brackets and the last negation mark
in the state of the parser.

* `Fault.Marks`: what has to stand at a fault.
* `parseStep_anchored`, `parseStep_error`: a step keeps the indices in a state at what they were
  taken for, and fails at a fault that is where it says.
* **`parse_error`**: so do whole patterns.
* **`CompiledPattern.compile_error_marks`**: and so does their compilation, where expressions turn
  out not to be well formed.
-/

namespace Motif.Pattern

/-! ## Faults in a text -/

/-- What has to stand where a fault is, when `before` is the text up to its index and `rest` what
follows. -/
def Fault.Marks (before rest : List Char) : Fault → Prop
  | emptyPattern => True
  | emptyGroup _ => rest.head? = some '('
  | emptyAlternation _ => rest.head? = some '['
  | unclosedBracket b _ => rest.head? = some b.opening
  | unexpectedClosing found _ | mismatchedClosing _ found _ => rest.head? = some found.closing
  | unclosedText _ => rest.head? = some '\''
  | unknownEscape c _ => ['\\', c] <+: rest
  | loneEscape _ => rest = ['\\']
  | unclosedRegex _ => rest.head? = some '/'
  | unknownRegexFlag c _ | danglingQuantifier c _ => rest.head? = some c
  | invalidRegex source _ => '/' :: (source.toList.flatMap slashedChar ++ ['/']) <+: rest
  | unknownKind found _ => found.toList <+: rest
  | emptyName _ => before.getLast? = some ','
  | missingValue name _ =>
    name.toList ++ ['='] <+: rest ∨
      name = Token.textName ∧
        ∃ keyword, (kindNamed? keyword).isSome ∧ keyword.toList ++ ['='] <+: rest
  | invalidRange .tooLarge _ => ∃ c ∈ rest.head?, c.isDigit
  | invalidRange .noCount _ | invalidRange .notDecimal _ | invalidRange .emptyUpTo _
  | invalidRange .reversed _ | unclosedRange _ => rest.head? = some '\x7b'
  | danglingNegation _ => rest.head? = some '!'
  | tooDeep _ => ∃ c ∈ rest.head?, c ∈ ['(', '[', '!']

/-- What stands at a fault does not depend on how far back the text goes. -/
theorem Fault.Marks.prepend {before rest : List Char} {f : Fault} (h : f.Marks before rest)
    (used : List Char) : f.Marks (used ++ before) rest := by
  cases f with
  | emptyName i =>
    show (used ++ before).getLast? = some ','
    rw [List.getLast?_append, show before.getLast? = some ',' from h]
    rfl
  | invalidRange r i => cases r <;> exact h
  | _ => exact h

namespace Cursor

variable {a b : Cursor} {f : Fault} {c : Char} {cs : List Char} {i : Nat}

/-- From a cursor on there is what a fault is about, at the index of the fault. -/
def Locates (a : Cursor) (f : Fault) : Prop :=
  ∃ before rest, a.rest = before ++ rest ∧ f.index = a.index + byteLength before ∧
    f.Marks before rest

/-- A fault that is located from further on is located from here. -/
theorem Reaches.locates (h : a.Reaches b) : b.Locates f → a.Locates f
  | ⟨before, rest, hb, hi, hm⟩ => by
    obtain ⟨used, ha, hj⟩ := h
    refine ⟨used ++ before, rest, by rw [ha, hb, List.append_assoc], ?_, hm.prepend used⟩
    rw [hi, hj, byteLength_append, Nat.add_assoc]

/-- A fault may be located right here. -/
theorem locates_here (hi : f.index = a.index) (hm : f.Marks [] a.rest) : a.Locates f :=
  ⟨[], a.rest, rfl, hi, hm⟩

/-- From a cursor on there is a character at an index. -/
def Shows (a : Cursor) (c : Char) (i : Nat) : Prop :=
  ∃ before rest, a.rest = before ++ c :: rest ∧ i = a.index + byteLength before

/-- A character that is reached is shown where it is reached. -/
theorem Reaches.shows (h : a.Reaches ⟨c :: cs, i⟩) : a.Shows c i := by
  obtain ⟨used, ha, hi⟩ := h
  exact ⟨used, cs, ha, hi⟩

/-- A fault that is about the character at its index. -/
theorem Shows.locates (h : a.Shows c f.index)
    (hm : ∀ before rest : List Char, f.Marks before (c :: rest)) : a.Locates f := by
  obtain ⟨before, rest, ha, hi⟩ := h
  exact ⟨before, c :: rest, ha, hi, hm before rest⟩

end Cursor

theorem map_eq_error {α β ε : Type} {g : α → β} {r : Except ε α} {e : ε}
    (h : r.map g = .error e) : r = .error e := by
  cases r with
  | error e' => exact congrArg Except.error (Except.error.inj h)
  | ok a => cases h

theorem Reading.map_eq_error {α β : Type} {g : α → β} {r : Reading α} {f : Fault}
    (h : r.map g = .error f) : r = .error f :=
  Pattern.map_eq_error h

/-! ## Literals -/

variable {f : Fault}

/-- Reading a quoted text fails at an escape, or since the quote at `start` is not closed. -/
theorem readText_error {start : Nat} {cs : List Char} {i : Nat}
    (h : readText start cs i = .error f) : f = .unclosedText start ∨ Cursor.Locates ⟨cs, i⟩ f := by
  fun_induction readText start cs i with
  | case1 => exact .inl (Except.error.inj h).symm
  | case2 => cases h
  | case3 i =>
    obtain rfl := Except.error.inj h
    exact .inr (Cursor.locates_here rfl rfl)
  | case4 e cs i c _ ih =>
    have hreach : Cursor.Reaches ⟨'\\' :: e :: cs, i⟩ ⟨cs, _⟩ := ⟨['\\', e], rfl, rfl⟩
    exact (ih (Reading.map_eq_error h)).imp_right hreach.locates
  | case5 e cs i =>
    obtain rfl := Except.error.inj h
    exact .inr (Cursor.locates_here rfl ⟨cs, rfl⟩)
  | case6 c cs i _ _ _ ih =>
    have hreach : Cursor.Reaches ⟨c :: cs, i⟩ ⟨cs, _⟩ := ⟨[c], rfl, rfl⟩
    exact (ih (Reading.map_eq_error h)).imp_right hreach.locates

/-- Reading the source of a literal fails at a lone escape, or since the slash at `start` is not
closed. -/
theorem readSource_error {start : Nat} {cs : List Char} {i : Nat}
    (h : readSource start cs i = .error f) :
    f = .unclosedRegex start ∨ Cursor.Locates ⟨cs, i⟩ f := by
  fun_induction readSource start cs i with
  | case1 => exact .inl (Except.error.inj h).symm
  | case2 => cases h
  | case3 i =>
    obtain rfl := Except.error.inj h
    exact .inr (Cursor.locates_here rfl rfl)
  | case4 cs i ih =>
    have hreach : Cursor.Reaches ⟨'\\' :: '/' :: cs, i⟩ ⟨cs, _⟩ := ⟨['\\', '/'], rfl, rfl⟩
    exact (ih (Reading.map_eq_error h)).imp_right hreach.locates
  | case5 e cs i _ ih =>
    have hreach : Cursor.Reaches ⟨'\\' :: e :: cs, i⟩ ⟨cs, _⟩ := ⟨['\\', e], rfl, rfl⟩
    exact (ih (Reading.map_eq_error h)).imp_right hreach.locates
  | case6 c cs i _ _ _ _ ih =>
    have hreach : Cursor.Reaches ⟨c :: cs, i⟩ ⟨cs, _⟩ := ⟨[c], rfl, rfl⟩
    exact (ih (Reading.map_eq_error h)).imp_right hreach.locates

/-- A flag that is unknown or repeated is located where it stands. -/
theorem readFlags_error {seen cs : List Char} {i : Nat} (h : readFlags seen cs i = .error f) :
    Cursor.Locates ⟨cs, i⟩ f := by
  fun_induction readFlags seen cs i with
  | case1 | case4 => cases h
  | case2 _ c cs i _ _ ih =>
    have hreach : Cursor.Reaches ⟨c :: cs, i⟩ ⟨cs, _⟩ := ⟨[c], rfl, rfl⟩
    exact hreach.locates (ih (Reading.map_eq_error h))
  | case3 =>
    obtain rfl := Except.error.inj h
    exact Cursor.locates_here rfl rfl

theorem readQuoted_error {a : Cursor} {cs : List Char} (ha : a.rest = '\'' :: cs)
    (h : readText a.index cs (a.index + 1) = .error f) : a.Locates f := by
  rcases readText_error h with rfl | hf
  · exact Cursor.locates_here rfl (congrArg List.head? ha)
  · exact (Cursor.passes_past ha).reaches.locates hf

theorem readRegex_error {a : Cursor} {cs : List Char} (ha : a.rest = '/' :: cs)
    (h : readRegex a.index cs (a.index + 1) = .error f) : a.Locates f := by
  have hreach : a.Reaches ⟨cs, a.index + 1⟩ := (Cursor.passes_past ha).reaches
  unfold readRegex at h
  split at h
  · rename_i hs
    obtain rfl := Except.error.inj h
    rcases readSource_error hs with rfl | hf
    · exact Cursor.locates_here rfl (congrArg List.head? ha)
    · exact hreach.locates hf
  · rename_i hs
    have hf := readFlags_error (Reading.map_eq_error h)
    exact (hreach.trans (readSource_passes hs).reaches).locates hf

/-! ## Tests -/

variable {a : Cursor}

/-- Reading an expected value fails within it, or since it is missing: that is a fault of the name
before it. -/
theorem readExpected_error {name : String} {nameAt : Nat}
    (h : readExpected name nameAt a = .error f) : f = .missingValue name nameAt ∨ a.Locates f := by
  unfold readExpected at h
  split at h
  · rename_i hr
    exact .inr (readQuoted_error hr (Reading.map_eq_error h))
  · rename_i hr
    exact .inr (readRegex_error hr (Reading.map_eq_error h))
  · dsimp only at h
    split at h
    · exact .inl (Except.error.inj h).symm
    · cases h

/-- What a name is read from, when something else follows it. -/
theorem takeWhile_append_prefix {p : Char → Bool} {c : Char} {cs : List Char}
    (h : (a.dropWhile p).rest = c :: cs) : a.takeWhile p ++ [c] <+: a.rest := by
  refine ⟨cs, ?_⟩
  rw [List.append_assoc, List.singleton_append, ← h]
  exact List.takeWhile_append_dropWhile

/-- A constraint without a name fails where the name should stand. -/
theorem readConstraint_error (h : readConstraint a = .error f) :
    f = .emptyName a.index ∨ a.Locates f := by
  unfold readConstraint at h
  dsimp only at h
  split at h
  · exact .inl (Except.error.inj h).symm
  · split at h
    · rename_i cs hr
      right
      rcases readExpected_error (Reading.map_eq_error h) with rfl | hf
      · refine Cursor.locates_here rfl (.inl ?_)
        rw [String.toList_ofList]
        exact takeWhile_append_prefix hr
      · exact ((Cursor.reaches_dropWhile _ a).trans (Cursor.passes_past hr).reaches).locates hf
    · cases h

/-- The faults of constraints are located in the text. -/
theorem readConstraints_error (h : readConstraints a = .error f) : a.Locates f := by
  fun_induction readConstraints a with
  | case1 a cs hr e he =>
    obtain rfl := Except.error.inj h
    rcases readConstraint_error he with rfl | hf
    · -- the index is the one after the comma
      exact ⟨[','], cs, hr, rfl, rfl⟩
    · exact (Cursor.passes_past hr).reaches.locates hf
  | case2 a cs hr c b hc ih =>
    have hreach := (Cursor.passes_past hr).trans_reaches (readConstraint_passes hc).reaches
    exact hreach.reaches.locates (ih (Reading.map_eq_error h))
  | case3 => cases h

/-- So are those of a test of a token, an unknown kind among them. -/
theorem readTokenTest_error (h : readTokenTest a = .error f) : a.Locates f := by
  have hdrop := Cursor.reaches_dropWhile (!endsName ·) a
  unfold readTokenTest at h
  dsimp only at h
  split at h
  · obtain rfl := Except.error.inj h
    refine Cursor.locates_here rfl ?_
    show String.toList _ <+: a.rest
    rw [String.toList_ofList]
    exact List.takeWhile_prefix _
  · rename_i kind hkind
    split at h
    · rename_i cs hr
      have hreach := hdrop.trans (Cursor.passes_past hr).reaches
      split at h
      · rename_i he
        obtain rfl := Except.error.inj h
        rcases readExpected_error he with rfl | hf
        · refine Cursor.locates_here rfl (.inr ⟨rfl, _, by rw [hkind]; rfl, ?_⟩)
          rw [String.toList_ofList]
          exact takeWhile_append_prefix hr
        · exact hreach.locates hf
      · rename_i hv
        have hf := readConstraints_error (Reading.map_eq_error h)
        exact (hreach.trans (readExpected_reaches hv)).locates hf
    · exact hdrop.locates (readConstraints_error (Reading.map_eq_error h))

/-! ## Ranges -/

/-- A number that is too large is located at its first digit. -/
theorem readNumber_error (h : readNumber a = .error f) : a.Locates f := by
  unfold readNumber at h
  dsimp only at h
  split at h
  · cases h
  · rename_i hne
    split at h
    · cases h
    · obtain rfl := Except.error.inj h
      obtain ⟨d, ds, hd⟩ := List.exists_cons_of_ne_nil hne
      have hmem : d ∈ a.takeWhile Char.isDigit := by
        rw [hd]
        exact List.mem_cons_self
      have hhead : a.rest.head? = some d := by
        obtain ⟨rest, hrest⟩ := List.takeWhile_prefix (l := a.rest) Char.isDigit
        rw [← hrest, show a.rest.takeWhile Char.isDigit = d :: ds from hd]
        rfl
      exact Cursor.locates_here rfl ⟨d, hhead, List.all_eq_true.mp List.all_takeWhile d hmem⟩

/-- A fault of a range as a whole. Such faults are at the opening brace. -/
def Fault.OfRange (start : Nat) (f : Fault) : Prop :=
  f = .unclosedRange start ∨ ∃ r, r ≠ .tooLarge ∧ f = .invalidRange r start

theorem readRangeEnd_error {start : Nat} {min : UInt32} {max : Option UInt32}
    (h : readRangeEnd start min max a = .error f) : f.OfRange start := by
  unfold readRangeEnd at h
  split at h
  · have h := map_eq_error h
    unfold checkedSpan at h
    split at h
    · exact .inr ⟨_, by simp, (Except.error.inj h).symm⟩
    · split at h
      · exact .inr ⟨_, by simp, (Except.error.inj h).symm⟩
      · cases h
  · exact .inr ⟨_, by simp, (Except.error.inj h).symm⟩
  · exact .inl (Except.error.inj h).symm

/-- A range fails at one of its numbers, or as a whole. -/
theorem readRange_error {start : Nat} (h : readRange start a = .error f) :
    f.OfRange start ∨ a.Locates f := by
  unfold readRange at h
  split at h
  · rename_i he
    obtain rfl := Except.error.inj h
    exact .inr (readNumber_error he)
  · rename_i hn
    split at h
    · rename_i hc
      split at h
      · rename_i he
        obtain rfl := Except.error.inj h
        have hreach := (readNumber_reaches hn).trans (Cursor.passes_past hc).reaches
        exact .inr (hreach.locates (readNumber_error he))
      · exact .inl (readRangeEnd_error h)
    · split at h
      · exact .inl (readRangeEnd_error h)
      · exact .inl (.inr ⟨_, by simp, (Except.error.inj h).symm⟩)
    · exact .inl (.inr ⟨_, by simp, (Except.error.inj h).symm⟩)
    · exact .inl (.inl (Except.error.inj h).symm)

variable {c : Char} {cs : List Char} {i : Nat}

/-- A range that fails as a whole is located at its brace. -/
theorem readQuantifier_error (hc : isQuantifier c = true)
    (h : readQuantifier c cs i = .error f) : Cursor.Locates ⟨c :: cs, i⟩ f := by
  unfold readQuantifier at h
  split at h
  case h_4 =>
    rename_i h₁ h₂ h₃
    obtain rfl : c = '\x7b' :=
      (((eq_of_isQuantifier hc).resolve_left h₁).resolve_left h₂).resolve_left h₃
    rcases readRange_error (Reading.map_eq_error h) with (rfl | ⟨r, hr, rfl⟩) | hf
    · exact Cursor.locates_here rfl rfl
    · refine Cursor.locates_here rfl ?_
      cases r with
      | tooLarge => exact absurd rfl hr
      | noCount | notDecimal | emptyUpTo | reversed => rfl
    · exact (Cursor.passes_past rfl).reaches.locates hf
  all_goals cases h

/-! ## States -/

namespace ParseState

variable {s s' : ParseState} {b : Bracket}

/-- The open brackets of a state and the mark that waits for an element are found where the state
says, from a cursor on. -/
structure Anchored (a : Cursor) (s : ParseState) : Prop where
  frames : ∀ f ∈ s.frames, a.Shows f.bracket.opening f.start
  mark : ∀ n i, s.mode = .negating n i → a.Shows '!' i

/-- At the start there is nothing open that could be to blame. -/
theorem anchored_start (a : Cursor) : Anchored a {} where
  frames := List.forall_mem_nil _
  mark := by
    intro n i h
    cases h

/-- A state in which no negation is waiting. -/
theorem Anchored.of_frames (hs : s.Anchored a) (hf : ∀ f ∈ s'.frames, f ∈ s.frames)
    (hm : ∀ n i, s'.mode ≠ .negating n i) : s'.Anchored a where
  frames := fun f h => hs.frames f (hf f h)
  mark := fun n i h => absurd h (hm n i)

/-- Adding an element keeps the brackets that are open. -/
theorem Anchored.push (hs : s.Anchored a) (e : Element) : (s.push e).Anchored a :=
  hs.of_frames (fun _ h => h) (fun _ _ h => Mode.noConfusion h)

/-- A negation that waits is shown where its mark stands. -/
theorem Anchored.negate (hs : s.Anchored a) (hi : a.Shows '!' i) : (s.negate i).Anchored a where
  frames := hs.frames
  mark := by
    intro n j h
    obtain ⟨-, rfl⟩ := Mode.negating.inj h
    exact hi

/-- A bracket that is opened is shown where it stands. -/
theorem Anchored.enter (hs : s.Anchored a) (hi : a.Shows b.opening i) :
    (s.enter b i).Anchored a where
  frames := List.forall_mem_cons.mpr ⟨hi, hs.frames⟩
  mark := by
    intro n j h
    cases h

/-- Closing a bracket keeps those around it. -/
theorem Anchored.leave (hs : s.Anchored a) (h : s.leave b i = .ok s') : s'.Anchored a := by
  unfold ParseState.leave at h
  split at h
  · cases h
  · rename_i f frames hf
    split at h
    · cases h
    · split at h
      · cases h
      · obtain rfl := Except.ok.inj h
        refine hs.of_frames (fun g hg => ?_) (fun _ _ h => Mode.noConfusion h)
        rw [hf]
        exact List.mem_cons_of_mem f hg

/-- A bracket is closed in vain where nothing is open, where another bracket is, or where nothing
stands inside. -/
theorem Anchored.leave_error (hs : s.Anchored a) (hi : a.Shows b.closing i)
    (h : s.leave b i = .error f) : a.Locates f := by
  unfold ParseState.leave at h
  split at h
  · obtain rfl := Except.error.inj h
    exact hi.locates fun _ _ => rfl
  · rename_i g frames hg
    split at h
    · obtain rfl := Except.error.inj h
      exact hi.locates fun _ _ => rfl
    · rename_i hb
      split at h
      · obtain rfl := Except.error.inj h
        have hopen := hs.frames g (by rw [hg]; exact List.mem_cons_self)
        rw [not_not.mp hb] at hopen
        cases b with
        | group | alternation => exact hopen.locates fun _ _ => rfl
      · cases h

/-- Brackets nested too deep are located at the one that is too much. -/
theorem nest_error (hi : a.Shows c i) (hc : c ∈ ['(', '[', '!'])
    (h : s.nest s' i = .error f) : a.Locates f := by
  unfold nest at h
  split at h
  · obtain rfl := Except.error.inj h
    exact hi.locates fun _ _ => ⟨c, rfl, hc⟩
  · cases h

/-- At the end, the fault is an open bracket or a waiting negation, unless there is no element at
all. -/
theorem Anchored.finish_error (hs : s.Anchored a) (h : s.finish = .error f) :
    f = .emptyPattern ∨ a.Locates f := by
  unfold ParseState.finish at h
  split at h
  · rename_i hm
    obtain rfl := Except.error.inj h
    exact .inr ((hs.mark _ _ hm).locates fun _ _ => rfl)
  · rename_i g frames hg _
    obtain rfl := Except.error.inj h
    have hopen := hs.frames g (by rw [hg]; exact List.mem_cons_self)
    exact .inr (hopen.locates fun _ _ => rfl)
  · split at h
    · exact .inl (Except.error.inj h).symm
    · cases h

end ParseState

/-! ## Steps and whole patterns -/

variable {s s' : ParseState} {b : Cursor}

theorem stepElement_anchored (ha : a.Shows c i) (hs : s.Anchored a)
    (h : stepElement s c cs i = .ok (s', b)) : s'.Anchored a := by
  unfold stepElement at h
  dsimp only at h
  split at h
  case h_1 | h_2 | h_3 =>
    obtain ⟨_, hn, h⟩ := Graph.map_eq_ok h
    obtain ⟨-, rfl⟩ := ParseState.nest_eq_ok hn
    obtain ⟨rfl, -⟩ := Prod.mk.inj h
    first
      | exact hs.negate ha
      | exact hs.enter ha
  case h_4 | h_5 =>
    obtain ⟨rfl, -⟩ := Prod.mk.inj (Except.ok.inj h)
    exact hs.push _
  case h_6 | h_7 =>
    obtain ⟨_, -, rfl⟩ := Reading.map_eq_ok h
    exact hs.push _
  case h_8 =>
    split at h
    · cases h
    · obtain ⟨_, -, rfl⟩ := Reading.map_eq_ok h
      exact hs.push _

/-- The faults of reading an element are located from where the element begins. -/
theorem stepElement_error (ha : a.Reaches ⟨c :: cs, i⟩) (h : stepElement s c cs i = .error f) :
    a.Locates f := by
  unfold stepElement at h
  dsimp only at h
  split at h
  case h_1 | h_2 | h_3 => exact ParseState.nest_error ha.shows (by simp) (map_eq_error h)
  case h_4 | h_5 => cases h
  case h_6 => exact ha.locates (readQuoted_error rfl (Reading.map_eq_error h))
  case h_7 => exact ha.locates (readRegex_error rfl (Reading.map_eq_error h))
  case h_8 =>
    split at h
    · obtain rfl := Except.error.inj h
      exact ha.shows.locates fun _ _ => rfl
    · exact ha.locates (readTokenTest_error (Reading.map_eq_error h))

theorem stepBetween_anchored (ha : a.Shows c i) (hs : s.Anchored a)
    (h : stepBetween s c cs i = .ok (s', b)) : s'.Anchored a := by
  unfold stepBetween at h
  split at h
  · obtain ⟨rfl, -⟩ := Prod.mk.inj (Except.ok.inj h)
    exact hs.of_frames (fun _ h => h) (fun _ _ h => Mode.noConfusion h)
  · split at h
    · obtain ⟨_, hl, h⟩ := Graph.map_eq_ok h
      obtain ⟨rfl, -⟩ := Prod.mk.inj h
      exact hs.leave hl
    · exact stepElement_anchored ha hs h

/-- Between elements, there are also those of closing a bracket. -/
theorem stepBetween_error (ha : a.Reaches ⟨c :: cs, i⟩) (hs : s.Anchored a)
    (h : stepBetween s c cs i = .error f) : a.Locates f := by
  unfold stepBetween at h
  split at h
  · cases h
  · split at h
    · rename_i hc
      obtain rfl := eq_of_closing? hc
      exact hs.leave_error ha.shows (map_eq_error h)
    · exact stepElement_error ha h

/-- A step keeps the indices in a state at what they were taken for. -/
theorem parseStep_anchored (ha : a.Shows c i) (hs : s.Anchored a)
    (h : parseStep s c cs i = .ok (s', b)) : s'.Anchored a := by
  unfold parseStep at h
  split at h
  · split at h
    · cases h
    · exact stepElement_anchored ha hs h
  · split at h
    · obtain ⟨q, -, rfl⟩ := Reading.map_eq_ok h
      exact hs.of_frames (fun _ h => h) (fun _ _ h => Mode.noConfusion h)
    · exact stepBetween_anchored ha hs h
  · exact stepBetween_anchored ha hs h

/-- A step fails at a fault that is where it says. -/
theorem parseStep_error (ha : a.Reaches ⟨c :: cs, i⟩) (hs : s.Anchored a)
    (h : parseStep s c cs i = .error f) : a.Locates f := by
  unfold parseStep at h
  split at h
  · rename_i hm
    split at h
    · obtain rfl := Except.error.inj h
      exact (hs.mark _ _ hm).locates fun _ _ => rfl
    · exact stepElement_error ha h
  · split at h
    · rename_i hq
      exact ha.locates (readQuantifier_error hq (Reading.map_eq_error h))
    · exact stepBetween_error ha hs h
  · exact stepBetween_error ha hs h

/-- By induction on the steps, of which each keeps the state anchored. -/
theorem parseFrom_error {o : Cursor} (ho : o.Reaches a) (hs : s.Anchored o)
    (h : parseFrom s a = .error f) : f = .emptyPattern ∨ o.Locates f := by
  fun_induction parseFrom s a with
  | case1 s a _ => exact hs.finish_error h
  | case2 s a c cs hr e he =>
    obtain rfl := Except.error.inj h
    have ha : o.Reaches ⟨c :: cs, a.index⟩ := by rwa [← hr]
    exact .inr (parseStep_error ha hs he)
  | case3 s a c cs hr s' b hstep ih =>
    have ha : o.Reaches ⟨c :: cs, a.index⟩ := by rwa [← hr]
    have hb := ha.trans (parseStep_passes hstep).reaches
    exact ih hb (parseStep_anchored ha.shows hs hstep) h

/-- **A pattern that cannot be read** is refused for what stands at the index of the fault. -/
theorem parse_error {source : String} (h : parse source = .error f) :
    Cursor.Locates (.ofString source) f := by
  rcases parseFrom_error (Cursor.Reaches.refl _) (ParseState.anchored_start _) h with rfl | hf
  · exact Cursor.locates_here rfl trivial
  · exact hf

/-! ## Expressions that are not well formed -/

/-- The fault is that of one of some expressions. -/
def Fault.Refuses (f : Fault) (rs : List RegexLiteral) : Prop :=
  ∃ r ∈ rs, f = .invalidRegex r.source r.index

/-- A literal that is refused is refused among more of them. -/
theorem Fault.Refuses.mono {f : Fault} {rs ss : List RegexLiteral} (h : f.Refuses rs)
    (hsub : rs ⊆ ss) : f.Refuses ss := by
  obtain ⟨r, hr, hf⟩ := h
  exact ⟨r, hsub hr, hf⟩

/-- A traversal fails where it fails at one of the values. -/
theorem mapM_eq_error {α β ε : Type} {g : α → Except ε β} {as : List α} {e : ε}
    (h : as.mapM g = .error e) : ∃ a ∈ as, g a = .error e := by
  induction as with
  | nil => cases h
  | cons a as ih =>
    rw [List.mapM_cons] at h
    cases ha : g a with
    | error e' =>
      rw [ha] at h
      obtain rfl := Except.error.inj h
      exact ⟨a, List.mem_cons_self, ha⟩
    | ok b =>
      rw [ha] at h
      cases has : as.mapM g with
      | error e' =>
        rw [has] at h
        obtain rfl := Except.error.inj h
        obtain ⟨a', ha', hg⟩ := ih has
        exact ⟨a', List.mem_cons_of_mem _ ha', hg⟩
      | ok bs =>
        rw [has] at h
        cases h

/-- Each of the expressions that are placed in a text stands there. -/
theorem Placed.exists_of_mem {i : Nat} {cs : List Char} {r : RegexLiteral}
    {rs : List RegexLiteral} (h : Placed i cs rs) (hr : r ∈ rs) :
    ∃ before rest, cs = before ++ (r.written ++ rest) ∧ r.index = i + byteLength before := by
  induction rs generalizing i cs with
  | nil => cases hr
  | cons r' rs ih =>
    obtain ⟨before, rest, rfl, hi, hrest⟩ := h
    rcases List.mem_cons.mp hr with rfl | hr
    · exact ⟨before, rest, rfl, hi⟩
    · obtain ⟨before', rest', rfl, hi'⟩ := ih hrest hr
      refine ⟨before ++ (r'.written ++ before'), rest', by simp, ?_⟩
      rw [hi', hi, byteLength_append, byteLength_append, Nat.add_assoc, Nat.add_assoc]

/-- The expression that a fault is about stands where the fault is. -/
theorem Fault.Refuses.locates {a : Cursor} {f : Fault} {rs : List RegexLiteral}
    (h : f.Refuses rs) (hp : Placed a.index a.rest rs) : a.Locates f := by
  obtain ⟨r, hr, rfl⟩ := h
  obtain ⟨before, rest, ha, hi⟩ := hp.exists_of_mem hr
  refine ⟨before, r.written ++ rest, ha, hi, ?_⟩
  refine ⟨r.flags.toList ++ rest, ?_⟩
  simp [RegexLiteral.written]

variable [RegexEngine]

/-- A value fails to compile only if its literal is refused. -/
theorem compile_value_error {v : Expected} (h : ValueTest.compile v = .error f) :
    f.Refuses v.literals := by
  unfold ValueTest.compile at h
  split at h
  · cases h
  · rename_i r
    split at h
    · cases h
    · exact ⟨r, List.mem_singleton_self r, (Except.error.inj h).symm⟩
  · cases h

/-- A test fails to compile only if one of its literals is refused. -/
theorem Atom.compile_error {t : TokenTest} (h : Atom.compile t = .error f) :
    f.Refuses t.literals := by
  obtain ⟨c, hc, he⟩ := mapM_eq_error (map_eq_error h)
  refine (compile_value_error (map_eq_error he)).mono fun r hr => ?_
  exact List.mem_flatMap.mpr ⟨c, hc, hr⟩

end Motif.Pattern

namespace Motif.Graph

open Pattern

variable [RegexEngine]

mutual

/-- **An element is not lowered** because there is nothing in a group, or because of one of its
expressions. -/
theorem lower_error : ∀ {e : Element} {next : Option Nat} {ar : Arena} {f : Fault},
    lower e next ar = .error f → f = .emptyPattern ∨ f.Refuses e.literals
  | .token t, next, ar, f, h => by
    unfold lower at h
    exact .inr (Atom.compile_error (map_eq_error h))
  | .anchor s, next, ar, f, h => by
    unfold lower at h
    cases h
  | .group es, next, ar, f, h => by
    unfold lower at h
    split at h
    · rename_i hl
      obtain rfl := Except.error.inj h
      exact lowerAll_error hl
    · exact .inl (Except.error.inj h).symm
    · cases h
  | .alternation es, next, ar, f, h => by
    unfold lower at h
    exact lowerBranches_error (map_eq_error h)
  | .negation e, next, ar, f, h | .repetition e q, next, ar, f, h => by
    unfold lower at h
    have he := lower_error (map_eq_error h)
    exact he

theorem lowerAll_error : ∀ {es : List Element} {exit : Option Nat} {ar : Arena} {f : Fault},
    lowerAll es exit ar = .error f → f = .emptyPattern ∨ f.Refuses (Element.literalsAll es)
  | [], exit, ar, f, h => by
    unfold lowerAll at h
    cases h
  | e :: es, exit, ar, f, h => by
    unfold lowerAll at h
    split at h
    · rename_i hl
      obtain rfl := Except.error.inj h
      exact (lowerAll_error hl).imp_right (·.mono (List.subset_append_right _ _))
    · exact (lower_error (map_eq_error h)).imp_right (·.mono (List.subset_append_left _ _))

theorem lowerBranches_error : ∀ {es : List Element} {exit : Option Nat} {ar : Arena} {f : Fault},
    lowerBranches es exit ar = .error f → f = .emptyPattern ∨ f.Refuses (Element.literalsAll es)
  | [], exit, ar, f, h => by
    unfold lowerBranches at h
    cases h
  | e :: es, exit, ar, f, h => by
    unfold lowerBranches at h
    split at h
    · rename_i hl
      obtain rfl := Except.error.inj h
      exact (lower_error hl).imp_right (·.mono (List.subset_append_left _ _))
    · exact (lowerBranches_error (map_eq_error h)).imp_right
        (·.mono (List.subset_append_right _ _))

end

/-- Lowering fails on a literal, or since there is nothing to lower. -/
theorem ofElements_error {es : List Element} {f : Fault} (h : ofElements es = .error f) :
    f = .emptyPattern ∨ f.Refuses (Element.literalsAll es) := by
  unfold ofElements at h
  split at h
  · rename_i hl
    obtain rfl := Except.error.inj h
    exact lower_error hl
  · cases h

end Motif.Graph

namespace Motif.CompiledPattern

open Pattern

section

variable [RegexEngine]

/-- **Every fault of a pattern is where it says**: its index is that of a character, and what
stands there is what the fault is about. -/
theorem compile_error_marks {p : String} {flags : Flags} {f : Fault}
    (h : compile p flags = .error f) :
    ∃ before rest : String, p = before ++ rest ∧ f.index = before.utf8ByteSize ∧
      f.Marks before.toList rest.toList := by
  have hf : Cursor.Locates (.ofString p) f := by
    unfold compile at h
    split at h
    · rename_i hp
      obtain rfl := Except.error.inj h
      exact parse_error hp
    · rename_i es hp
      rcases Graph.ofElements_error (map_eq_error h) with rfl | hr
      · exact Cursor.locates_here rfl trivial
      · exact hr.locates (parse_placed hp)
  obtain ⟨before, rest, hp, hi, hm⟩ := hf
  refine ⟨.ofList before, .ofList rest, ?_, ?_, ?_⟩
  · have hp : p.toList = before ++ rest := hp
    rw [← String.ofList_append, ← hp, String.ofList_toList]
  · rw [hi, utf8ByteSize_eq_byteLength, String.toList_ofList]
    exact Nat.zero_add _
  · rwa [String.toList_ofList, String.toList_ofList]

end

/-- An open quote in a negated group, after a character of more than one byte. -/
theorem compile_error_marks_quote :
    compile "'é' !('ñ" {} = .error (.unclosedText 7) ∧
      ∃ before rest : String, "'é' !('ñ" = before ++ rest ∧ 7 = before.utf8ByteSize ∧
        rest.toList.head? = some '\'' := by
  have h : compile "'é' !('ñ" {} = .error (.unclosedText 7) := by cbv
  exact ⟨h, compile_error_marks h⟩

end Motif.CompiledPattern
