import Motif.Proofs.Regex.Closing.Bracket
import Motif.Regex.Parse

/-!
# The parts of an expression before the end of a group

Reading goes on step by step, from a state and what is left to the next. A group around an
expression is one more group that is open in the state (`ParseState.within`), and its end is behind
what is left.

* `halt`: where reading on from a state comes to. `parseFrom_eq_halt`: an expression is well formed
  iff reading it comes to the end with no group open.
* **`parseStep_alone`**: a step within a group is a step alone, but for the ends of groups and for
  escapes that are not finished.
* **`parseFrom_within`**: if a text is read to its end within a group, then reading it alone halts
  in one of three places.
-/

namespace Motif.Regex

variable {line : Bool} {cs ds : List Char}

/-- Modes are read alone as before the end of a group, except where that end is the end of the
modes. -/
theorem readModes_alone {m m' : Modes} {seen : List Char} {on dangling : Bool} {c : Char}
    {es : List Char} (h : Before line cs ds)
    (he : readModes m seen on dangling ds = some (m', c, es)) :
    (∃ rest, readModes m seen on dangling cs = some (m', c, rest) ∧ Before line rest es) ∨
      c = ')' ∧ es = ['\\', 'z'] := by
  fun_induction readModes m seen on dangling cs generalizing ds with
  | case1 m seen on dangling =>
    right
    cases before_nil.mp h with
    | nothing => cases he
    | close =>
      rw [readModes, if_pos (.inr rfl)] at he
      split_ifs at he
      obtain ⟨-, he⟩ := Prod.mk.inj (Option.some.inj he)
      obtain ⟨rfl, rfl⟩ := Prod.mk.inj he
      exact ⟨rfl, rfl⟩
    | lineClose =>
      rw [readModes, if_neg (by decide)] at he
      split_ifs at he with _ hminus
      · exact absurd hminus (by decide)
      · cases he
  | case2 m seen on dangling d rest hd hbad =>
    obtain ⟨fs, rfl, hfs⟩ := before_cons.mp h
    rw [readModes, if_pos hd, if_pos hbad] at he
    cases he
  | case3 m seen on dangling d rest hd hbad =>
    obtain ⟨fs, rfl, hfs⟩ := before_cons.mp h
    rw [readModes, if_pos hd, if_neg hbad] at he
    obtain ⟨hm, hc⟩ := Prod.mk.inj (Option.some.inj he)
    obtain ⟨rfl, rfl⟩ := Prod.mk.inj hc
    exact .inl ⟨rest, by rw [hm], hfs⟩
  | case4 m seen on dangling d rest hd hseen =>
    obtain ⟨fs, rfl, hfs⟩ := before_cons.mp h
    rw [readModes, if_neg hd, if_pos hseen] at he
    cases he
  | case5 m seen on dangling rest hd hseen ih =>
    obtain ⟨fs, rfl, hfs⟩ := before_cons.mp h
    rw [readModes, if_neg hd, if_neg hseen, if_pos rfl] at he
    exact ih hfs he
  | case6 m seen on dangling d rest hd hseen hminus m₁ hm ih =>
    obtain ⟨fs, rfl, hfs⟩ := before_cons.mp h
    rw [readModes, if_neg hd, if_neg hseen, if_neg hminus, hm] at he
    exact ih hfs he
  | case7 m seen on dangling d rest hd hseen hminus hm =>
    obtain ⟨fs, rfl, hfs⟩ := before_cons.mp h
    rw [readModes, if_neg hd, if_neg hseen, if_neg hminus, hm] at he
    cases he

/-- The name of a group is read alone: the `>` that ends it is in no closing. -/
theorem readName_alone (h : Before line cs ds) : ReadAlone line (readName cs) (readName ds) := by
  unfold readName
  rcases before_dropUntil '>' (by decide) h with ⟨hc, hd⟩ | ⟨ht, rest, es, hc, hd, hb⟩
  · simp only [hc, hd]
    exact .none _
  · simp only [hc, hd, ht]
    cases cs.takeWhile (· != '>') with
    | nil => exact .none _
    | cons c tail =>
      change ReadAlone line
        (if beginsName c && tail.all continuesName then some (c :: tail, rest) else none)
        (if beginsName c && tail.all continuesName then some (c :: tail, es) else none)
      split_ifs
      · exact .some hb
      · exact .none _

/-- The bounds of a repetition are read alone: the brace that ends them is in no closing. -/
theorem readBounds_alone {free : Bool} (h : Before line cs ds) :
    ReadAlone line (readBounds free cs) (readBounds free ds) := by
  intro b es he
  unfold readBounds at he
  split at he
  · cases he
  · rename_i min fs hm
    obtain ⟨rest, hr, hb⟩ := readBound_alone (before_skipSpace h _) free _ _ hm
    obtain ⟨rest, rfl, hb'⟩ := before_of_cons hb (by decide)
    obtain ⟨rfl, rfl⟩ := Prod.mk.inj (Option.some.inj he)
    exact ⟨skipSpace free rest, by simp only [readBounds, hr], before_skipSpace hb' _⟩
  · rename_i min fs hm
    obtain ⟨rest, hr, hb⟩ := readBound_alone (before_skipSpace h _) free _ _ hm
    obtain ⟨rest, rfl, hb'⟩ := before_of_cons hb (by decide)
    have hs := before_skipSpace hb' free
    split at he
    · rename_i gs hg
      rw [hg] at hs
      obtain ⟨rest', hc, hs'⟩ := before_of_cons hs (by decide)
      obtain ⟨rfl, rfl⟩ := Prod.mk.inj (Option.some.inj he)
      exact ⟨skipSpace free rest', by simp only [readBounds, hr, hc], before_skipSpace hs' _⟩
    · rename_i hbrace
      split at he
      · rename_i max gs hx
        obtain ⟨rest', hr', hs'⟩ := readBound_alone hs free _ _ hx
        obtain ⟨rest', rfl, hs''⟩ := before_of_cons hs' (by decide)
        split_ifs at he with hle
        obtain ⟨rfl, rfl⟩ := Prod.mk.inj (Option.some.inj he)
        refine ⟨skipSpace free rest', ?_, before_skipSpace hs'' _⟩
        simp only [readBounds, hr]
        split
        · rename_i ts ht
          rw [ht] at hs
          obtain ⟨es, he, -⟩ := before_cons.mp hs
          exact absurd he (hbrace es)
        · simp only [hr', if_pos hle]
      · cases he
  · cases he

theorem readBounds_of_closing {free : Bool} (h : Closing line (skipSpace free ds)) :
    readBounds free ds = none := by
  have hbound : readBound free (skipSpace free ds) = none := by
    cases hb : readBound free (skipSpace free ds) with
    | none => rfl
    | some p =>
      obtain ⟨rest, hr, -⟩ := readBound_alone (before_nil.mpr h) free p.1 p.2 hb
      simp [readBound, readDigits] at hr
  simp only [readBounds, hbound]

/-! ## States within a group -/

/-- A state of reading, with one more group open around all others. -/
def ParseState.within (s : ParseState) (g : OpenGroup) : ParseState :=
  { s with groups := s.groups ++ [g] }

namespace ParseState

variable {s : ParseState} {g : OpenGroup}

theorem modes_within : (s.within g).modes = s.modes := rfl

theorem groups_within_ne_nil : (s.within g).groups ≠ [] :=
  List.append_ne_nil_of_right_ne_nil _ (List.cons_ne_nil g [])

/-- A group opened within is left as it is alone. -/
theorem leave?_within (h : s.groups ≠ []) :
    (s.within g).leave? = s.leave?.map (·.within g) := by
  obtain ⟨x, groups, hs⟩ := List.exists_cons_of_ne_nil h
  simp only [leave?, within, hs, List.cons_append]
  rfl

/-- What is repeated is the last part of the innermost group, and a group opened within has its own
parts. -/
theorem repeat?_within (min : Nat) (max : Option Nat) (isLazy : Bool) :
    (s.within g).repeat? min max isLazy = (s.repeat? min max isLazy).map (·.within g) := by
  simp only [repeat?, within]
  split <;> rfl

end ParseState

/-- A step within a group, to the state `s'` with `ds` left, is made alone too. -/
def MadeAlone (line : Bool) (g : OpenGroup) (alone : Option (ParseState × List Char))
    (s' : ParseState) (ds : List Char) : Prop :=
  ∃ s cs, alone = some (s, cs) ∧ s' = s.within g ∧ Before line cs ds

/-- Whatever step is made within a group is made alone too. -/
def StepAlone (line : Bool) (g : OpenGroup) (alone within : Option (ParseState × List Char)) :
    Prop :=
  ∀ s' ds, within = some (s', ds) → MadeAlone line g alone s' ds

section

variable {s : ParseState} {g : OpenGroup}

theorem stepAlone_map {o : Option ParseState} (h : Before line cs ds) :
    StepAlone line g (o.map (·, cs)) ((o.map (·.within g)).map (·, ds)) := by
  intro s' es he
  cases o with
  | none => cases he
  | some s =>
    obtain ⟨rfl, rfl⟩ := Prod.mk.inj (Option.some.inj he)
    exact ⟨s, cs, rfl, rfl, h⟩

/-- A `?` after a repetition makes it lazy, and is read with it. -/
theorem stepRepeat_eq (s : ParseState) (min : Nat) (max : Option Nat) (cs : List Char) :
    stepRepeat s min max cs =
      if cs.head? = some '?' then (s.repeat? min max true).map (·, cs.tail)
      else (s.repeat? min max false).map (·, cs) := by
  unfold stepRepeat
  split
  · rfl
  · rename_i hne
    rw [if_neg]
    intro hc
    obtain ⟨rest, rfl⟩ := List.head?_eq_some_iff.mp hc
    exact hne rest rfl

/-- A repetition is made alone. The `?` that makes it lazy is not taken from the closing. -/
theorem stepRepeat_alone {min : Nat} {max : Option Nat} (h : Before line cs ds) :
    StepAlone line g (stepRepeat s min max cs) (stepRepeat (s.within g) min max ds) := by
  simp only [stepRepeat_eq, before_head? h (c := '?') (by decide), ParseState.repeat?_within]
  split_ifs with hc
  · exact stepAlone_map (before_tail h hc)
  · exact stepAlone_map h

/-- Reads the start of a named group from its name on. -/
def stepName (s : ParseState) (cs : List Char) : Option (ParseState × List Char) :=
  (readName cs).bind fun p =>
    if s.names.contains p.1 then none
    else some ({ s.enter true s.modes with names := p.1 :: s.names }, p.2)

/-- A group with a name is opened alone. -/
theorem stepName_alone (h : Before line cs ds) :
    StepAlone line g (stepName s cs) (stepName (s.within g) ds) := by
  intro s' es he
  obtain ⟨⟨name, fs⟩, hn, he⟩ := Option.bind_eq_some_iff.mp he
  obtain ⟨rest, hr, hb⟩ := readName_alone h _ _ hn
  split_ifs at he with hmem
  obtain ⟨rfl, rfl⟩ := Prod.mk.inj (Option.some.inj he)
  refine ⟨{ s.enter true s.modes with names := name :: s.names }, rest, ?_, rfl, hb⟩
  rw [stepName, hr]
  exact if_neg hmem

/-- Reads modes, and either the start of a group that has them or the end of a group of nothing
else. -/
def stepModes (s : ParseState) (cs : List Char) : Option (ParseState × List Char) :=
  match readModes s.modes [] true false cs with
  | none => none
  | some (m, ')', rest) => some ({ s.push .empty with modes := m }, rest)
  | some (m, _, rest) => some (s.enter false m, rest)

/-- Modes are read alone, or the parenthesis of the closing ends them. Then a group is open that
nothing closes. -/
theorem stepModes_alone {s' : ParseState} {es : List Char} (h : Before line cs ds)
    (he : stepModes (s.within g) ds = some (s', es)) :
    MadeAlone line g (stepModes s cs) s' es ∨ s'.groups ≠ [] ∧ es = ['\\', 'z'] := by
  unfold stepModes at he
  rw [ParseState.modes_within] at he
  split at he
  · cases he
  · rename_i m fs hm
    obtain ⟨rfl, rfl⟩ := Prod.mk.inj (Option.some.inj he)
    rcases readModes_alone h hm with ⟨rest, hr, hb⟩ | ⟨-, rfl⟩
    · exact .inl ⟨{ s.push .empty with modes := m }, rest, by simp only [stepModes, hr], rfl, hb⟩
    · exact .inr ⟨ParseState.groups_within_ne_nil, rfl⟩
  · rename_i m c fs hc hm
    obtain ⟨rfl, rfl⟩ := Prod.mk.inj (Option.some.inj he)
    rcases readModes_alone h hm with ⟨rest, hr, hb⟩ | ⟨rfl, -⟩
    · refine .inl ⟨s.enter false m, rest, ?_, rfl, hb⟩
      simp only [stepModes, hr]
    · exact absurd rfl hc

/-- A mark without a parenthesis and a line feed begins the text with the closing behind iff it
begins the text alone. -/
theorem before_isPrefix {p : List Char} (hp : ')' ∉ p ∧ '\n' ∉ p) (h : Before line cs ds) :
    p <+: ds ↔ p <+: cs := by
  induction p generalizing cs ds with
  | nil => simp
  | cons c p ih =>
    simp only [List.mem_cons, not_or] at hp
    have hc : c ≠ ')' ∧ c ≠ '\n' := ⟨Ne.symm hp.1.1, Ne.symm hp.2.1⟩
    constructor
    · rintro ⟨tail, rfl⟩
      obtain ⟨rest, rfl, hr⟩ := before_of_cons h hc
      exact (List.prefix_cons_inj c).mpr ((ih ⟨hp.1.2, hp.2.2⟩ hr).mp (List.prefix_append ..))
    · rintro ⟨tail, rfl⟩
      obtain ⟨es, rfl, he⟩ := before_cons.mp h
      exact (List.prefix_cons_inj c).mpr ((ih ⟨hp.1.2, hp.2.2⟩ he).mpr (List.prefix_append ..))

theorem before_drop {p : List Char} (hp : p <+: cs) (h : Before line cs ds) :
    Before line (cs.drop p.length) (ds.drop p.length) := by
  obtain ⟨rest, rfl⟩ := hp
  obtain ⟨t, ht, rfl⟩ := h
  rw [List.append_assoc, List.drop_left, List.drop_left]
  exact ⟨t, ht, rfl⟩

/-- Reads what stands after the question mark at the start of a group. -/
def stepSpecial (s : ParseState) (cs : List Char) : Option (ParseState × List Char) :=
  if ['='] <+: cs ∨ ['!'] <+: cs ∨ ['<', '='] <+: cs ∨ ['<', '!'] <+: cs then none
  else if ['P', '<'] <+: cs then stepName s (cs.drop 2)
  else if ['<'] <+: cs then stepName s (cs.drop 1)
  else stepModes s cs

theorem stepGroup_eq (s : ParseState) (cs : List Char) :
    stepGroup s cs =
      if (skipSpace s.modes.freeForm cs).head? = some '?' then
        stepSpecial s (skipSpace s.modes.freeForm cs).tail
      else some (s.enter true s.modes, skipSpace s.modes.freeForm cs) := by
  have hnot : ∀ {p rest : List Char}, (∀ tail, rest = p ++ tail → False) → ¬ p <+: rest := by
    rintro p rest h ⟨tail, ht⟩
    exact h tail ht.symm
  unfold stepGroup
  dsimp only
  generalize skipSpace s.modes.freeForm cs = rs
  split
  case h_1 | h_2 | h_3 | h_4 => simp [stepSpecial]
  case h_5 =>
    rw [List.head?_cons, if_pos rfl, List.tail_cons, stepSpecial, if_neg (by simp),
      if_pos (by simp), stepName]
    cases hn : readName _ <;> simp [hn]
  case h_6 rest h1 h2 =>
    rw [List.head?_cons, if_pos rfl, List.tail_cons, stepSpecial, if_neg, if_neg (by simp),
      if_pos (by simp), stepName]
    · cases hn : readName _ <;> simp [hn]
    · have := hnot (p := ['=']) h1
      have := hnot (p := ['!']) h2
      simp [*]
  case h_7 rest h1 h2 h3 h4 h5 h6 =>
    rw [List.head?_cons, if_pos rfl, List.tail_cons, stepSpecial, if_neg, if_neg (hnot h5),
      if_neg (hnot h6)]
    · rfl
    · exact not_or.mpr ⟨hnot h1, not_or.mpr ⟨hnot h2, not_or.mpr ⟨hnot h3, hnot h4⟩⟩⟩
  case h_8 h =>
    rw [if_neg]
    intro hc
    obtain ⟨rest, rfl⟩ := List.head?_eq_some_iff.mp hc
    exact h rest rfl

/-- A group that begins with `?` is opened alone, or its modes run into the closing. -/
theorem stepSpecial_alone {s' : ParseState} {es : List Char} (h : Before line cs ds)
    (he : stepSpecial (s.within g) ds = some (s', es)) :
    MadeAlone line g (stepSpecial s cs) s' es ∨ s'.groups ≠ [] ∧ es = ['\\', 'z'] := by
  unfold stepSpecial at he ⊢
  simp only [before_isPrefix (p := ['=']) (by decide) h,
    before_isPrefix (p := ['!']) (by decide) h,
    before_isPrefix (p := ['<', '=']) (by decide) h,
    before_isPrefix (p := ['<', '!']) (by decide) h,
    before_isPrefix (p := ['P', '<']) (by decide) h,
    before_isPrefix (p := ['<']) (by decide) h] at he
  split_ifs at he ⊢ with hlook hnamed hname
  · exact .inl (stepName_alone (before_drop hnamed h) _ _ he)
  · exact .inl (stepName_alone (before_drop hname h) _ _ he)
  · exact stepModes_alone h he

/-- So is every group. -/
theorem stepGroup_alone {s' : ParseState} {es : List Char} (h : Before line cs ds)
    (he : stepGroup (s.within g) ds = some (s', es)) :
    MadeAlone line g (stepGroup s cs) s' es ∨ s'.groups ≠ [] ∧ es = ['\\', 'z'] := by
  have hs := before_skipSpace h s.modes.freeForm
  rw [stepGroup_eq] at he ⊢
  simp only [ParseState.modes_within, before_head? hs (c := '?') (by decide)] at he
  split_ifs at he ⊢ with hc
  · exact stepSpecial_alone (before_tail hs hc) he
  · obtain ⟨rfl, rfl⟩ := Prod.mk.inj (Option.some.inj he)
    exact .inl ⟨_, _, rfl, rfl, hs⟩

/-! ## Reading to the end -/

theorem skipSpace_nil (free : Bool) : skipSpace free [] = [] := by
  cases free <;> rfl

/-- No free space is skipped before a character that is neither blank nor the mark of a comment. -/
theorem skipSpace_of_solid {free : Bool} {c : Char} (hb : Text.isBlank c = false) (hm : c ≠ '#') :
    skipSpace free (c :: cs) = c :: cs := by
  cases free with
  | false => rfl
  | true => simp [skipSpace, skipFree, hb, hm]

theorem isBlank_of_skipFree {inComment : Bool} {c : Char} {rest : List Char}
    (h : skipFree inComment cs = c :: rest) : Text.isBlank c = false := by
  induction cs generalizing inComment with
  | nil => cases h
  | cons d cs ih =>
    rw [skipFree] at h
    split_ifs at h with _ hb
    · exact ih h
    · exact ih h
    · exact ih h
    · obtain ⟨rfl, -⟩ := List.cons.inj h
      simpa using hb

variable [Text.PropertyTables]

/-- Where only free space is left, reading is over. -/
theorem parseFrom_nil (h : skipSpace s.modes.freeForm cs = []) :
    parseFrom s cs = if s.groups.isEmpty then some s.content else none := by
  rw [parseFrom]
  split
  · rfl
  · simp_all

/-- Where more is left, a step is made from its first character. -/
theorem parseFrom_cons {c : Char} {rest : List Char}
    (h : skipSpace s.modes.freeForm cs = c :: rest) :
    parseFrom s cs = (parseStep s (c :: rest)).bind fun (s', rest') => parseFrom s' rest' := by
  rw [parseFrom]
  split
  · simp_all
  · rename_i c' rest' h'
    obtain ⟨rfl, rfl⟩ := List.cons.inj (h.symm.trans h')
    split <;> simp [*]

theorem parseFrom_step {c : Char} {s' : ParseState} {rest : List Char}
    (hb : Text.isBlank c = false) (hm : c ≠ '#') (h : parseStep s (c :: cs) = some (s', rest)) :
    parseFrom s (c :: cs) = parseFrom s' rest := by
  rw [parseFrom_cons (skipSpace_of_solid hb hm), h]
  rfl

theorem parseStep_textEnd (s : ParseState) (cs : List Char) :
    parseStep s ('\\' :: 'z' :: cs) = some (s.push (.look .textEnd), cs) := by
  simp only [parseStep]
  rfl

/-- The last two characters of the closing are the end of the text, outside of every group. -/
theorem parseFrom_textEnd (s : ParseState) :
    parseFrom s ['\\', 'z'] =
      if s.groups.isEmpty then some (s.push (.look .textEnd)).content else none := by
  rw [parseFrom_step (by decide) (by decide) (parseStep_textEnd s [])]
  exact parseFrom_nil (skipSpace_nil _)

/-- So they are not read while a group is open. -/
theorem parseFrom_textEnd_of_open (h : s.groups ≠ []) : parseFrom s ['\\', 'z'] = none := by
  rw [parseFrom_textEnd, if_neg (by simpa using h)]

/-- A step that begins with none of the marks reads one character or escape. -/
theorem parseStep_of_unit {c : Char}
    (hc : c ∉ ['(', ')', '|', '[', '?', '*', '+', '\x7b', '.', '^', '$']) :
    parseStep s (c :: cs) = (readUnit s.modes.freeForm (c :: cs)).bind fun (e, rest) =>
      (s.modes.expression? e).map fun r => (s.push r, rest) := by
  simp only [List.mem_cons, List.not_mem_nil, or_false, not_or] at hc
  unfold parseStep
  split
  case h_13 => cases readUnit s.modes.freeForm (c :: cs) <;> rfl
  all_goals simp_all

/-- **One step within a group.** A step that is made before the group's end is made alone too,
unless it ends the group, the text alone ends after a backslash, or nothing can be read after it. -/
theorem parseStep_alone {c : Char} {s' : ParseState} {es : List Char}
    (h : Before line (c :: cs) ds) (he : parseStep (s.within g) ds = some (s', es)) :
    MadeAlone line g (parseStep s (c :: cs)) s' es ∨ c = ')' ∧ s.groups = [] ∨
      line = true ∧ c = '\\' ∧ cs = [] ∨ parseFrom s' es = none := by
  unfold parseStep at he
  simp only [ParseState.modes_within] at he
  split at he
  case h_1 => cases he
  case h_2 fs =>
    obtain ⟨rfl, hfs⟩ := before_cons_cons.mp h
    rcases stepGroup_alone hfs he with halone | ⟨hopen, rfl⟩
    · exact .inl halone
    · exact .inr (.inr (.inr (parseFrom_textEnd_of_open hopen)))
  case h_3 fs =>
    obtain ⟨rfl, hfs⟩ := before_cons_cons.mp h
    by_cases hs : s.groups = []
    · exact .inr (.inl ⟨rfl, hs⟩)
    · rw [ParseState.leave?_within hs] at he
      exact .inl (stepAlone_map hfs _ _ he)
  case h_4 fs =>
    obtain ⟨rfl, hfs⟩ := before_cons_cons.mp h
    obtain ⟨rfl, rfl⟩ := Prod.mk.inj (Option.some.inj he)
    exact .inl ⟨s.branch, cs, rfl, rfl, hfs⟩
  case h_5 fs =>
    obtain ⟨rfl, hfs⟩ := before_cons_cons.mp h
    obtain ⟨⟨item, gs⟩, hb, he⟩ := Option.map_eq_some_iff.mp he
    obtain ⟨rfl, rfl⟩ := Prod.mk.inj he
    obtain ⟨rest, hr, hb⟩ := readBracket_alone hfs _ _ hb
    exact .inl ⟨s.push (.char item.points item.depth), rest,
      by simp only [parseStep, hr, Option.map_some], rfl, hb⟩
  case h_6 fs | h_7 fs | h_8 fs =>
    obtain ⟨rfl, hfs⟩ := before_cons_cons.mp h
    exact .inl (stepRepeat_alone hfs _ _ he)
  case h_9 fs =>
    obtain ⟨rfl, hfs⟩ := before_cons_cons.mp h
    split at he
    · cases he
    · rename_i min max gs hb
      obtain ⟨rest, hr, hb⟩ := readBounds_alone hfs _ _ hb
      left
      simp only [parseStep, hr]
      exact stepRepeat_alone hb _ _ he
  case h_10 fs =>
    obtain ⟨rfl, hfs⟩ := before_cons_cons.mp h
    obtain ⟨set, hd, he⟩ := Option.map_eq_some_iff.mp he
    obtain ⟨rfl, rfl⟩ := Prod.mk.inj he
    exact .inl ⟨s.push (.char set 0), cs, by simp only [parseStep, hd, Option.map_some], rfl, hfs⟩
  case h_11 fs =>
    obtain ⟨rfl, hfs⟩ := before_cons_cons.mp h
    obtain ⟨rfl, rfl⟩ := Prod.mk.inj (Option.some.inj he)
    exact .inl ⟨s.push (.look s.modes.caret), cs, rfl, rfl, hfs⟩
  case h_12 fs =>
    obtain ⟨rfl, hfs⟩ := before_cons_cons.mp h
    obtain ⟨rfl, rfl⟩ := Prod.mk.inj (Option.some.inj he)
    exact .inl ⟨s.push (.look s.modes.dollar), cs, rfl, rfl, hfs⟩
  case h_13 _ h1 h2 h3 h4 h5 h6 h7 h8 h9 h10 h11 =>
    obtain ⟨fs, rfl, hfs⟩ := before_cons.mp h
    have hc : c ∉ ['(', ')', '|', '[', '?', '*', '+', '\x7b', '.', '^', '$'] := by
      simp_all
    rw [parseStep_of_unit hc]
    split at he
    · cases he
    · rename_i e gs hu
      obtain ⟨r, hr, he⟩ := Option.map_eq_some_iff.mp he
      obtain ⟨rfl, rfl⟩ := Prod.mk.inj he
      rcases readUnit_alone h hu with ⟨rest, hrest, hb⟩ | ⟨rfl, hcut⟩
      · left
        exact ⟨s.push r, rest, by simp only [hrest, Option.bind_some, hr, Option.map_some], rfl, hb⟩
      · right; right
        cases hcut with
        | close => exact .inr (parseFrom_textEnd_of_open ParseState.groups_within_ne_nil)
        | lineClose hline => exact .inl ⟨hline, rfl, rfl⟩
        | @brace _ es hclosing =>
          -- the brace that is left begins a repetition without bounds
          right
          have hbounds : readBounds ((s.within g).push r).modes.freeForm es = none :=
            readBounds_of_closing hclosing
          rw [parseFrom_cons (skipSpace_of_solid (by decide) (by decide))]
          simp only [parseStep, hbounds, Option.bind_none]

/-- Where reading on from a state comes to: the state that is reached, and the characters that are
left at the end or where no step can be made. -/
def halt (s : ParseState) (cs : List Char) : ParseState × List Char :=
  match _hs : skipSpace s.modes.freeForm cs with
  | [] => (s, [])
  | c :: rest =>
    match _h : parseStep s (c :: rest) with
    | none => (s, c :: rest)
    | some (s', rest') => halt s' rest'
termination_by cs.length
decreasing_by
  have := length_skipSpace_le s.modes.freeForm cs
  rw [_hs] at this
  exact Nat.lt_of_lt_of_le (parseStep_length _h) this

/-- An expression is well formed iff reading it comes to the end with no group open. -/
theorem parseFrom_eq_halt (s : ParseState) (cs : List Char) :
    parseFrom s cs =
      if (halt s cs).2 = [] ∧ (halt s cs).1.groups = [] then some (halt s cs).1.content
      else none := by
  fun_induction halt s cs with
  | case1 s cs hs =>
    rw [parseFrom_nil hs]
    simp only [true_and, List.isEmpty_iff]
  | case2 s cs c rest hs hstep =>
    rw [parseFrom_cons hs, hstep]
    simp
  | case3 s cs c rest hs s' rest' hstep ih =>
    rw [parseFrom_cons hs, hstep]
    exact ih

/-- The state after the end of a group that nothing follows but the end of the text. -/
def ParseState.closed (s : ParseState) (g : OpenGroup) : ParseState :=
  { s with
    modes := g.modes
    groups := []
    branches := g.branches
    items := .look .textEnd :: .group s.content g.captures :: g.before }

/-- The closing ends the group around the expression, unless a group of the expression is still
open. -/
theorem parseFrom_close (s : ParseState) (g : OpenGroup) :
    parseFrom (s.within g) [')', '\\', 'z'] =
      if s.groups = [] then some (s.closed g).content else none := by
  rw [parseFrom_cons (skipSpace_of_solid (by decide) (by decide)), parseStep]
  by_cases hs : s.groups = []
  · obtain ⟨m, names, groups, branches, items⟩ := s
    obtain rfl : groups = [] := hs
    rw [if_pos rfl]
    exact parseFrom_textEnd _
  · obtain ⟨t, ht⟩ : ∃ t, s.leave? = some t := by
      obtain ⟨x, groups, hx⟩ := List.exists_cons_of_ne_nil hs
      exact ⟨_, by rw [ParseState.leave?, hx]⟩
    rw [if_neg hs, ParseState.leave?_within hs, ht]
    exact parseFrom_textEnd_of_open ParseState.groups_within_ne_nil

theorem parseStep_close_of_outermost (h : s.groups = []) : parseStep s (')' :: cs) = none := by
  simp only [parseStep, ParseState.leave?, h, Option.map_none]

theorem parseStep_backslash (s : ParseState) : parseStep s ['\\'] = none :=
  parseStep_of_unit (by decide)

/-- What reading comes to that goes on to the end of a group. -/
theorem parseFrom_closing {r : Regex} (h : Closing line (skipSpace s.modes.freeForm ds))
    (hr : parseFrom (s.within g) ds = some r) :
    s.groups = [] ∧ (r = (s.closed g).content ∨
      line = true ∧ s.modes.freeForm = false ∧
        ∃ e, s.modes.expression? (.char '\n') = some e ∧ r = ((s.push e).closed g).content) := by
  have hclose : ∀ t : ParseState, parseFrom (t.within g) [')', '\\', 'z'] = some r →
      t.groups = [] ∧ r = (t.closed g).content := by
    intro t ht
    rw [parseFrom_close] at ht
    split_ifs at ht with hg
    exact ⟨hg, (Option.some.inj ht).symm⟩
  generalize hd : skipSpace s.modes.freeForm ds = es at h
  cases h with
  | nothing =>
    rw [parseFrom_nil (s := s.within g) hd, if_neg] at hr
    · cases hr
    · simpa using ParseState.groups_within_ne_nil
  | close =>
    rw [parseFrom_cons (s := s.within g) hd,
      ← parseFrom_cons (skipSpace_of_solid (by decide) (by decide))] at hr
    obtain ⟨hg, rfl⟩ := hclose s hr
    exact ⟨hg, .inl rfl⟩
  | lineClose hline =>
    have hfree : s.modes.freeForm = false := by
      cases hf : s.modes.freeForm with
      | false => rfl
      | true =>
        rw [hf] at hd
        exact absurd (isBlank_of_skipFree hd) (by decide)
    have hunit : parseStep (s.within g) ['\n', ')', '\\', 'z'] =
        (s.modes.expression? (.char '\n')).map fun e => ((s.within g).push e, [')', '\\', 'z']) :=
      parseStep_of_unit (by decide)
    rw [parseFrom_cons (s := s.within g) hd, hunit] at hr
    obtain ⟨⟨s', es⟩, hstep, hr⟩ := Option.bind_eq_some_iff.mp hr
    obtain ⟨e, he, hstep⟩ := Option.map_eq_some_iff.mp hstep
    obtain ⟨rfl, rfl⟩ := Prod.mk.inj hstep
    obtain ⟨hg, rfl⟩ := hclose (s.push e) hr
    exact ⟨hg, .inr ⟨hline, hfree, e, he, rfl⟩⟩

/-- **What reading within a group comes to.** If the text is read to its end, then reading the
expression alone halts at the end of a group that it did not begin, in the middle of an escape that
the line feed would finish, or at its own end. -/
theorem parseFrom_within {r : Regex} (h : Before line cs ds)
    (hr : parseFrom (s.within g) ds = some r) :
    (halt s cs).1.groups = [] ∧ (∃ rest, (halt s cs).2 = ')' :: rest) ∨
    line = true ∧ (halt s cs).2 = ['\\'] ∨
    (halt s cs).2 = [] ∧ (halt s cs).1.groups = [] ∧
      (r = ((halt s cs).1.closed g).content ∨
        line = true ∧ (halt s cs).1.modes.freeForm = false ∧
          ∃ e, (halt s cs).1.modes.expression? (.char '\n') = some e ∧
            r = (((halt s cs).1.push e).closed g).content) := by
  fun_induction halt s cs generalizing ds with
  | case1 s cs hs =>
    right; right
    exact ⟨rfl, parseFrom_closing (before_nil.mp (hs ▸ before_skipSpace h _)) hr⟩
  | case2 s cs c rest hs hstep =>
    have hb := hs ▸ before_skipSpace h s.modes.freeForm
    obtain ⟨es, hd, -⟩ := before_cons.mp hb
    rw [parseFrom_cons (s := s.within g) hd] at hr
    obtain ⟨⟨s', es'⟩, hstep', hr⟩ := Option.bind_eq_some_iff.mp hr
    rcases parseStep_alone hb (hd ▸ hstep') with
      ⟨t, rest, ht, -⟩ | ⟨rfl, hg⟩ | ⟨hl, rfl, rfl⟩ | hnone
    · simp [hstep] at ht
    · exact .inl ⟨hg, rest, rfl⟩
    · exact .inr (.inl ⟨hl, rfl⟩)
    · simp [hnone] at hr
  | case3 s cs c rest hs t rest' hstep ih =>
    have hb := hs ▸ before_skipSpace h s.modes.freeForm
    obtain ⟨es, hd, -⟩ := before_cons.mp hb
    rw [parseFrom_cons (s := s.within g) hd] at hr
    obtain ⟨⟨s', es'⟩, hstep', hr⟩ := Option.bind_eq_some_iff.mp hr
    rcases parseStep_alone hb (hd ▸ hstep') with
      ⟨t', rest'', ht, rfl, hb'⟩ | ⟨rfl, hg⟩ | ⟨hl, rfl, rfl⟩ | hnone
    · obtain ⟨rfl, rfl⟩ := Prod.mk.inj (Option.some.inj (hstep.symm.trans ht))
      exact ih hb' hr
    · simp [parseStep_close_of_outermost hg] at hstep
    · simp [parseStep_backslash] at hstep
    · simp [hnone] at hr

end

/-! ## Depth -/

/-- The largest of a list is within a limit iff all of the list is. -/
theorem foldl_max_le {ns : List Nat} {k n : Nat} :
    ns.foldl Nat.max k ≤ n ↔ k ≤ n ∧ ∀ m ∈ ns, m ≤ n := by
  induction ns generalizing k with
  | nil => simp
  | cons m ns ih =>
    rw [List.foldl_cons, ih, List.forall_mem_cons, ← and_assoc, and_congr_left_iff]
    exact fun _ => Nat.max_le

/-- A part is less deep than the sequence that it is a part of. -/
theorem depth_lt_concat {rs : List Regex} {r : Regex} (h : r ∈ rs) :
    r.depth < (concat rs).depth := by
  rw [depth, Nat.lt_succ_iff]
  exact (foldl_max_le.mp (Nat.le_refl _)).2 _ (List.mem_map_of_mem h)

theorem depth_concat_le_append (rs : List Regex) (r : Regex) :
    (concat rs).depth ≤ (concat (rs ++ [r])).depth := by
  simp only [depth, List.map_append, List.foldl_append]
  exact Nat.succ_le_succ (Nat.le_max_left ..)

theorem depth_alternation_le (rs : List Regex) {r s : Regex} (h : r.depth ≤ s.depth) :
    (alternation (rs ++ [r])).depth ≤ (alternation (rs ++ [s])).depth := by
  simp only [depth, List.map_append, List.foldl_append]
  exact Nat.succ_le_succ (Nat.max_le.mpr
    ⟨Nat.le_max_left .., Nat.le_trans h (Nat.le_max_right ..)⟩)

theorem depth_ofSequence_le (rs : List Regex) (r : Regex) :
    (ofSequence rs).depth ≤ (ofSequence (rs ++ [r])).depth := by
  match rs with
  | [] =>
    rw [ofSequence, depth]
    exact Nat.zero_le _
  | [a] => exact Nat.le_of_lt (depth_lt_concat List.mem_cons_self)
  | a :: b :: rs => exact depth_concat_le_append (a :: b :: rs) r

/-- What a group holds is no deeper than what it holds with one more expression. -/
theorem depth_content_le_push (s : ParseState) (r : Regex) :
    s.content.depth ≤ (s.push r).content.depth := by
  have h := depth_ofSequence_le s.items.reverse r
  simp only [ParseState.content, ParseState.push, List.reverse_cons]
  match s.branches.reverse with
  | [] => exact h
  | [b] => exact depth_alternation_le [b] h
  | b :: b' :: bs => exact depth_alternation_le (b :: b' :: bs) h

end Motif.Regex
