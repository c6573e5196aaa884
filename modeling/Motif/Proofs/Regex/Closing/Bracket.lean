import Motif.Proofs.Regex.Closing.Escape

/-!
# Reading before the end of a group: brackets

Nothing that ends a group closes a bracket. So a bracket that is closed at all is closed within the
expression, and what was read of it is read alone.
-/

namespace Motif.Regex

variable {line : Bool} {cs ds t : List Char}

/-! ## Named ASCII classes -/

/-- A mark that is in no closing is found at the same place with the closing behind, or it is in
neither text. -/
theorem before_dropUntil (mark : Char) (hm : mark ∉ ['\n', ')', '\\', 'z'])
    (h : Before line cs ds) :
    cs.dropWhile (· != mark) = [] ∧ ds.dropWhile (· != mark) = [] ∨
      ds.takeWhile (· != mark) = cs.takeWhile (· != mark) ∧
        ∃ rest es, cs.dropWhile (· != mark) = mark :: rest ∧
          ds.dropWhile (· != mark) = mark :: es ∧ Before line rest es := by
  induction cs generalizing ds with
  | nil =>
    left
    simp only [List.mem_cons, List.not_mem_nil, or_false, not_or] at hm
    cases before_nil.mp h <;>
      simp [Ne.symm hm.1, Ne.symm hm.2.1, Ne.symm hm.2.2.1, Ne.symm hm.2.2.2]
  | cons c cs ih =>
    obtain ⟨fs, rfl, hfs⟩ := before_cons.mp h
    by_cases hc : c = mark
    · subst hc
      right
      simp only [List.takeWhile_cons, List.dropWhile_cons, bne_self_eq_false]
      exact ⟨rfl, cs, fs, rfl, rfl, hfs⟩
    · simpa [hc] using ih hfs

/-- Reads a named ASCII class after the mark of the complement. -/
def classBody (negated : Bool) (cs : List Char) :
    Option ((Bool × Text.CodePointSet) × List Char) :=
  match cs.dropWhile (· != ':') with
  | ':' :: ']' :: rest =>
    (asciiClass? (cs.takeWhile (· != ':'))).map fun s => ((negated, s), rest)
  | _ => none

theorem classBody_eq_none {negated : Bool}
    (h : ∀ rest, cs.dropWhile (· != ':') ≠ ':' :: ']' :: rest) : classBody negated cs = none := by
  unfold classBody
  split
  · exact absurd ‹_› (h _)
  · rfl

/-- A named class that is read with the closing behind is the one read alone. Here the failure
matters too: where no class is read, the `[` opens a bracket. -/
theorem classBody_alone {negated : Bool} (h : Before line cs ds) :
    classBody negated cs = none ∧ classBody negated ds = none ∨
      ∃ s rest es, classBody negated cs = some (s, rest) ∧ classBody negated ds = some (s, es) ∧
        Before line rest es := by
  rcases before_dropUntil ':' (by decide) h with ⟨hc, hd⟩ | ⟨ht, rest, es, hc, hd, h⟩
  · exact .inl ⟨classBody_eq_none (by simp [hc]), classBody_eq_none (by simp [hd])⟩
  · cases rest with
    | nil =>
      left
      refine ⟨classBody_eq_none (by simp [hc]), classBody_eq_none ?_⟩
      rw [hd]
      cases before_nil.mp h <;> simp
    | cons c rest =>
      obtain ⟨fs, rfl, hfs⟩ := before_cons.mp h
      by_cases hb : c = ']'
      · subst hb
        simp only [classBody, hc, hd, ht]
        cases asciiClass? (cs.takeWhile (· != ':')) with
        | none => exact .inl ⟨rfl, rfl⟩
        | some s => exact .inr ⟨_, _, _, rfl, rfl, hfs⟩
      · exact .inl ⟨classBody_eq_none (by simp [hc, hb]), classBody_eq_none (by simp [hd, hb])⟩

theorem readAsciiClass_colon (cs : List Char) :
    readAsciiClass (':' :: cs) = classBody (cs.head? == some '^')
      (if cs.head? == some '^' then cs.tail else cs) :=
  rfl

theorem readAsciiClass_of_ne {c : Char} (hc : c ≠ ':') : readAsciiClass (c :: cs) = none := by
  unfold readAsciiClass
  split
  · rename_i heq
    exact absurd (List.cons.inj heq).1 hc
  · rfl

/-- A named ASCII class is read alone, and is missing alone where it is missing before the end of
the group. -/
theorem readAsciiClass_alone (h : Before line cs ds) :
    readAsciiClass cs = none ∧ readAsciiClass ds = none ∨
      ∃ s rest es, readAsciiClass cs = some (s, rest) ∧ readAsciiClass ds = some (s, es) ∧
        Before line rest es := by
  cases cs with
  | nil => exact .inl ⟨rfl, by cases before_nil.mp h <;> rfl⟩
  | cons c cs =>
    obtain ⟨fs, rfl, hfs⟩ := before_cons.mp h
    by_cases hc : c = ':'
    · subst hc
      rw [readAsciiClass_colon, readAsciiClass_colon, before_head?_beq hfs (by decide)]
      cases hn : cs.head? == some '^' with
      | false => exact classBody_alone hfs
      | true =>
        cases cs with
        | nil => cases hn
        | cons d cs =>
          obtain ⟨gs, rfl, hgs⟩ := before_cons.mp hfs
          exact classBody_alone hgs
    · exact .inl ⟨readAsciiClass_of_ne hc, readAsciiClass_of_ne hc⟩

/-! ## Leftovers -/

/-- What is left of a closing of which some was read. Nothing of it closes a bracket. -/
def Leftover (es : List Char) : Prop :=
  es <:+ ['\n', ')', '\\', 'z']

theorem leftover_iff {es : List Char} : Leftover es ↔
    es = ['\n', ')', '\\', 'z'] ∨ es = [')', '\\', 'z'] ∨ es = ['\\', 'z'] ∨ es = ['z'] ∨
      es = [] := by
  simp [Leftover, List.suffix_cons_iff]

/-- A closing of which nothing was read is a leftover. -/
theorem Closing.leftover (h : Closing line t) : Leftover t := by
  rw [leftover_iff]
  cases h <;> simp

theorem skipFree_suffix (inComment : Bool) (cs : List Char) : skipFree inComment cs <:+ cs := by
  induction cs generalizing inComment with
  | nil => exact List.suffix_rfl
  | cons c cs ih =>
    rw [skipFree]
    split_ifs
    · exact (ih _).trans (List.suffix_cons ..)
    · exact (ih _).trans (List.suffix_cons ..)
    · exact (ih _).trans (List.suffix_cons ..)
    · exact List.suffix_rfl

/-- Skipping free space leaves a leftover of a leftover. -/
theorem leftover_skipSpace {es : List Char} (h : Leftover es) (free : Bool) :
    Leftover (skipSpace free es) := by
  unfold skipSpace
  split
  · exact (skipFree_suffix false es).trans h
  · exact h

/-- What an escape that is cut short leaves is a leftover, unless it leaves the brace of a name. -/
theorem CutShort.leftover {free : Bool} {e : Escape} {es : List Char}
    (h : CutShort line free cs e es) :
    Leftover es ∨ e = .wordTest .boundary ∧ ∃ fs, es = '\x7b' :: fs := by
  cases h with
  | close => exact .inl (leftover_iff.mpr (by simp))
  | lineClose => exact .inl (leftover_iff.mpr (by simp))
  | brace => exact .inr ⟨rfl, _, rfl⟩

/-! ## Openings -/

theorem readHyphens_of_ne {free : Bool} {b : OpenBracket} (h : cs.head? ≠ some '-') :
    readHyphens free b cs = (b, cs) := by
  rw [readHyphens]
  rintro rest rfl
  exact h rfl

/-- As many hyphens begin the bracket with the closing behind as without. -/
theorem before_readHyphens (h : Before line cs ds) (free : Bool) (b : OpenBracket) :
    (readHyphens free b ds).1 = (readHyphens free b cs).1 ∧
      Before line (readHyphens free b cs).2 (readHyphens free b ds).2 := by
  fun_induction readHyphens free b cs generalizing ds with
  | case1 b rest ih =>
    obtain ⟨fs, rfl, hfs⟩ := before_cons.mp h
    rw [readHyphens]
    exact ih (before_skipSpace hfs _)
  | case2 b cs hcs =>
    have hne : ds.head? ≠ some '-' := by
      rw [Ne, before_head? h (by decide), List.head?_eq_some_iff]
      rintro ⟨rest, rfl⟩
      exact hcs rest rfl
    rw [readHyphens_of_ne hne]
    exact ⟨rfl, h⟩

/-- Reads the start of a bracket after the caret. -/
def openingAfter (free negated : Bool) (cs : List Char) : OpenBracket × List Char :=
  let p := readHyphens free { negated } cs
  if p.1.items.isEmpty ∧ p.2.head? = some ']' then
    ({ negated, items := [{ points := .single ']' }] }, skipSpace free p.2.tail)
  else p

/-- Reads the caret of a bracket, if there is one. -/
def readCaret (free : Bool) (cs : List Char) : Bool × List Char :=
  if (skipSpace free cs).head? = some '^' then (true, skipSpace free (skipSpace free cs).tail)
  else (false, skipSpace free cs)

/-- The opening of a bracket is its caret, and then the hyphens and the literal `]` after it. -/
theorem readOpening_eq (free : Bool) (cs : List Char) :
    readOpening free cs = openingAfter free (readCaret free cs).1 (readCaret free cs).2 := by
  unfold readOpening
  split
  rename_i negated ds hn
  have hcaret : readCaret free cs = (negated, ds) := by
    unfold readCaret
    split at hn
    · rename_i rest hr
      rw [hr, ← hn]
      rfl
    · rename_i hne
      rw [if_neg, hn]
      intro hr
      obtain ⟨rest, hr⟩ := List.head?_eq_some_iff.mp hr
      exact hne rest hr
  rw [hcaret]
  unfold openingAfter
  dsimp only
  generalize readHyphens free { negated } ds = p
  split
  · rfl
  · rename_i b rest hne
    rw [if_neg]
    rintro ⟨hb, hr⟩
    obtain ⟨n, l, items⟩ := b
    obtain rfl := List.isEmpty_iff.mp hb
    obtain ⟨rest', rfl⟩ := List.head?_eq_some_iff.mp hr
    exact hne _ _ _ rfl rfl

/-- The part of an opening after its caret is read alone. -/
theorem before_openingAfter (h : Before line cs ds) (free negated : Bool) :
    (openingAfter free negated ds).1 = (openingAfter free negated cs).1 ∧
      Before line (openingAfter free negated cs).2 (openingAfter free negated ds).2 := by
  obtain ⟨hb, hr⟩ := before_readHyphens h free { negated }
  simp only [openingAfter, hb, before_head? hr (c := ']') (by decide)]
  split_ifs with hclose
  · exact ⟨rfl, before_skipSpace (before_tail hr hclose.2) _⟩
  · exact ⟨hb, hr⟩

/-- The caret of a bracket is read alone. -/
theorem before_readCaret (h : Before line cs ds) (free : Bool) :
    (readCaret free ds).1 = (readCaret free cs).1 ∧
      Before line (readCaret free cs).2 (readCaret free ds).2 := by
  have hs := before_skipSpace h free
  simp only [readCaret, before_head? hs (c := '^') (by decide)]
  split_ifs with hc
  · exact ⟨rfl, before_skipSpace (before_tail hs hc) _⟩
  · exact ⟨rfl, hs⟩

/-- The opening of a bracket is read alone: a caret, a hyphen and a `]` are in no closing. -/
theorem before_readOpening (h : Before line cs ds) (free : Bool) :
    (readOpening free ds).1 = (readOpening free cs).1 ∧
      Before line (readOpening free cs).2 (readOpening free ds).2 := by
  obtain ⟨hn, hr⟩ := before_readCaret h free
  rw [readOpening_eq, readOpening_eq, hn]
  exact before_openingAfter hr _ _

/-! ## Items -/

/-- Only a closing parenthesis can be next past the expression where free space is skipped. -/
theorem peekFree_before {marked : Bool} {c : Char} (hc : c ≠ ')') (h : Before line cs ds) :
    peekFree marked ds = some c ↔ peekFree marked cs = some c := by
  induction cs generalizing marked ds with
  | nil =>
    cases before_nil.mp h with
    | nothing => rfl
    | close | lineClose =>
      refine iff_of_false ?_ nofun
      intro he
      cases marked <;> exact hc (Option.some.inj he).symm
  | cons d cs ih =>
    obtain ⟨fs, rfl, hfs⟩ := before_cons.mp h
    rw [peekFree, peekFree]
    split_ifs
    · exact ih hfs
    · exact ih hfs
    · rfl

/-- What decides whether a hyphen makes a range is next before the end of the group iff it is next
alone. -/
theorem peekSpaced_before {free : Bool} {c : Char} (hc : c ≠ ')' ∧ c ≠ '\n')
    (h : Before line cs ds) : peekSpaced free ds = some c ↔ peekSpaced free cs = some c := by
  unfold peekSpaced
  split_ifs
  · exact peekFree_before hc.1 h
  · exact before_head? h hc

variable [Text.PropertyTables]

/-- A character or an escape that is read of a leftover leaves a leftover. -/
theorem leftover_readUnit {free : Bool} {e : Escape} {es : List Char} (h : Leftover ds)
    (he : readUnit free ds = some (e, es)) : Leftover es := by
  rw [leftover_iff] at h ⊢
  rcases h with rfl | rfl | rfl | rfl | rfl <;>
    simp [readUnit, readEscape, isEscapable, letterEscape?] at he <;> simp [← he.2]

/-- Reads an item of a bracket after its first character: a range, or the character alone. -/
def itemAfter (m : Modes) (first : Escape) : List Char → Option (SetItem × List Char)
  | [] => none
  | '-' :: after =>
    if peekSpaced m.freeForm after = some ']' ∨ peekSpaced m.freeForm after = some '-' then
      (item? m first).map (·, '-' :: after)
    else
      (readUnit m.freeForm (skipSpace m.freeForm after)).bind fun (last, rest) =>
        (rangeItem? m first last).map (·, rest)
  | c :: rest => (item? m first).map (·, c :: rest)

/-- An item of a bracket is its first character and what `itemAfter` reads behind it. -/
theorem readItem_eq (m : Modes) (cs : List Char) :
    readItem m cs = (readUnit m.freeForm cs).bind fun (first, rest) =>
      itemAfter m first (skipSpace m.freeForm rest) := by
  unfold readItem
  cases readUnit m.freeForm cs with
  | none => rfl
  | some p =>
    obtain ⟨first, rest⟩ := p
    simp only [Option.bind_some]
    generalize skipSpace m.freeForm rest = rs
    fun_cases itemAfter m first rs with
    | case1 => rfl
    | case2 after h => simp only [h, if_true]
    | case3 after h =>
      simp only [h, if_false]
      cases readUnit m.freeForm (skipSpace m.freeForm after) <;> rfl
    | case4 c rest h =>
      split
      · rename_i heq; cases heq
      · rename_i heq; exact absurd (List.cons.inj heq).1 h
      · rename_i heq; obtain ⟨rfl, rfl⟩ := List.cons.inj heq; rfl

theorem itemAfter_of_ne {m : Modes} {first : Escape} {c : Char} (hc : c ≠ '-') :
    itemAfter m first (c :: cs) = (item? m first).map (·, c :: cs) :=
  itemAfter.eq_3 _ _ _ _ hc

/-- There is no hyphen in a leftover, so no range goes on in it. -/
theorem leftover_itemAfter {m : Modes} {first : Escape} {item : SetItem} {es : List Char}
    (h : Leftover ds) (he : itemAfter m first ds = some (item, es)) : Leftover es := by
  cases ds with
  | nil => cases he
  | cons c ds =>
    have hc : c ≠ '-' := by
      rintro rfl
      simp [leftover_iff] at h
    rw [itemAfter_of_ne hc] at he
    obtain ⟨_, _, he⟩ := Option.map_eq_some_iff.mp he
    exact (Prod.mk.inj he).2 ▸ h

/-- A range or a character is read alone, or it ends in the closing and leaves a leftover of it. -/
theorem itemAfter_alone {m : Modes} {first : Escape} {item : SetItem} {es : List Char}
    (h : Before line cs ds) (he : itemAfter m first ds = some (item, es)) :
    (∃ rest, itemAfter m first cs = some (item, rest) ∧ Before line rest es) ∨ Leftover es := by
  cases cs with
  | nil => exact .inr (leftover_itemAfter (before_nil.mp h).leftover he)
  | cons d cs =>
    obtain ⟨fs, rfl, hfs⟩ := before_cons.mp h
    by_cases hd : d = '-'
    · subst hd
      rw [itemAfter] at he ⊢
      simp only [peekSpaced_before (c := ']') (by decide) hfs,
        peekSpaced_before (c := '-') (by decide) hfs] at he
      split_ifs at he ⊢
      · exact .inl (ReadAlone.map_const _ h _ _ he)
      · obtain ⟨⟨last, gs⟩, hu, he⟩ := Option.bind_eq_some_iff.mp he
        have hs := before_skipSpace hfs m.freeForm
        obtain ⟨_, hr, he'⟩ := Option.map_eq_some_iff.mp he
        obtain ⟨rfl, rfl⟩ := Prod.mk.inj he'
        generalize skipSpace m.freeForm cs = rs at *
        cases rs with
        | nil => exact .inr (leftover_readUnit (before_nil.mp hs).leftover hu)
        | cons c rs =>
          rcases readUnit_alone hs hu with ⟨rest, hc, hb⟩ | ⟨-, hcut⟩
          · rw [hc]
            exact .inl (ReadAlone.map_const _ hb _ _ he)
          · rcases hcut.leftover with hl | ⟨rfl, -⟩
            · exact .inr hl
            · -- a word test ends no range
              unfold rangeItem? at hr
              split at hr
              · rename_i hlast
                cases hlast
              · cases hr
    · rw [itemAfter_of_ne hd] at he ⊢
      exact .inl (ReadAlone.map_const _ h _ _ he)

/-- An item is read alone, or it ends in the closing. -/
theorem readItem_alone {m : Modes} {item : SetItem} {es : List Char} (h : Before line cs ds)
    (he : readItem m ds = some (item, es)) :
    (∃ rest, readItem m cs = some (item, rest) ∧ Before line rest es) ∨ Leftover es := by
  rw [readItem_eq] at he ⊢
  obtain ⟨⟨first, fs⟩, hu, he⟩ := Option.bind_eq_some_iff.mp he
  cases cs with
  | nil => exact .inr (leftover_itemAfter
      (leftover_skipSpace (leftover_readUnit (before_nil.mp h).leftover hu) _) he)
  | cons c cs =>
    rcases readUnit_alone h hu with ⟨rest, hr, hb⟩ | ⟨-, hcut⟩
    · rw [hr]
      exact itemAfter_alone (before_skipSpace hb _) he
    · rcases hcut.leftover with hl | ⟨rfl, fs, rfl⟩
      · exact .inr (leftover_itemAfter (leftover_skipSpace hl _) he)
      · -- nor does a word test stand alone in a bracket
        have hskip : skipSpace m.freeForm ('\x7b' :: fs) = '\x7b' :: fs := by
          cases m.freeForm <;> rfl
        simp only [hskip, itemAfter_of_ne (show '\x7b' ≠ '-' by decide)] at he
        cases he

/-! ## Steps through a bracket -/

theorem stepBracket_open {m : Modes} {b : OpenBracket} {outer : List OpenBracket} (cs : List Char) :
    stepBracket m b outer ('[' :: cs) =
      match readAsciiClass cs with
      | some ((negated, s), rest) =>
        (m.adjusted negated s).map fun s => (.inside (b.add { points := s }) outer, rest)
      | none =>
        some (.inside (readOpening m.freeForm cs).1 (b :: outer), (readOpening m.freeForm cs).2) :=
  rfl

/-- A step on a leftover adds an item: it neither opens nor closes a bracket. -/
theorem leftover_stepBracket {m : Modes} {b : OpenBracket} {outer : List OpenBracket}
    {st : BracketState} {es : List Char} (h : Leftover ds)
    (he : stepBracket m b outer ds = some (st, es)) :
    (∃ b', st = .inside b' outer) ∧ Leftover es := by
  unfold stepBracket at he
  split at he
  case h_7 =>
    obtain ⟨⟨item, es'⟩, hi, he⟩ := Option.map_eq_some_iff.mp he
    obtain ⟨rfl, rfl⟩ := Prod.mk.inj he
    rw [readItem_eq] at hi
    obtain ⟨⟨first, fs⟩, hu, hi⟩ := Option.bind_eq_some_iff.mp hi
    exact ⟨⟨_, rfl⟩, leftover_itemAfter (leftover_skipSpace (leftover_readUnit h hu) _) hi⟩
  case h_1 => cases he
  all_goals simp [leftover_iff] at h

/-- A step of a bracket is made alone, or it goes on into the closing and stays inside of the same
brackets. -/
theorem stepBracket_alone {m : Modes} {b : OpenBracket} {outer : List OpenBracket}
    {st : BracketState} {es : List Char} (h : Before line cs ds)
    (he : stepBracket m b outer ds = some (st, es)) :
    (∃ rest, stepBracket m b outer cs = some (st, rest) ∧ Before line rest es) ∨
      (∃ b', st = .inside b' outer) ∧ Leftover es := by
  cases cs with
  | nil => exact .inr (leftover_stepBracket (before_nil.mp h).leftover he)
  | cons c cs =>
    unfold stepBracket at he
    split at he
    case h_1 => cases he
    case h_2 fs =>
      left
      obtain ⟨rfl, hgs⟩ := before_cons_cons.mp h
      change stepBracket m b outer ('[' :: fs) = _ at he
      rw [stepBracket_open] at he ⊢
      rcases readAsciiClass_alone hgs with ⟨hc, hd⟩ | ⟨⟨negated, s⟩, rest, es, hc, hd, hb⟩
      · obtain ⟨ho, hr⟩ := before_readOpening hgs m.freeForm
        rw [hd, ho] at he
        rw [hc]
        exact ReadAlone.some hr _ _ he
      · rw [hd] at he
        rw [hc]
        obtain ⟨_, ha, he⟩ := Option.map_eq_some_iff.mp he
        obtain ⟨rfl, rfl⟩ := Prod.mk.inj he
        exact ⟨rest, by simp only [ha, Option.map_some], hb⟩
    case h_3 fs =>
      left
      obtain ⟨rfl, hgs⟩ := before_cons_cons.mp h
      obtain ⟨item, ha, he⟩ := Option.map_eq_some_iff.mp he
      obtain ⟨rfl, rfl⟩ := Prod.mk.inj he
      exact ⟨cs, by rw [stepBracket, ha]; rfl, hgs⟩
    case h_4 fs | h_5 fs | h_6 fs =>
      left
      obtain ⟨rfl, hgs⟩ := before_cons_cons.mp h
      obtain ⟨rest, rfl, hb⟩ := before_of_cons hgs (by decide)
      obtain ⟨rfl, rfl⟩ := Prod.mk.inj (Option.some.inj he)
      exact ⟨rest, rfl, hb⟩
    case h_7 h1 h2 h3 h4 h5 =>
      obtain ⟨fs, rfl, hfs⟩ := before_cons.mp h
      obtain ⟨⟨item, es'⟩, hi, he⟩ := Option.map_eq_some_iff.mp he
      obtain ⟨rfl, rfl⟩ := Prod.mk.inj he
      rcases readItem_alone h hi with ⟨rest, hr, hb⟩ | hl
      · left
        -- what does not begin the text with the closing behind does not begin the expression
        have hone : ∀ x : Char, (∀ gs, c :: fs ≠ x :: gs) → ∀ rest, c :: cs ≠ x :: rest := by
          intro x hne rest hr
          exact hne fs (by rw [(List.cons.inj hr).1])
        have htwo : ∀ x y : Char, (∀ gs, c :: fs ≠ x :: y :: gs) →
            ∀ rest, c :: cs ≠ x :: y :: rest := by
          intro x y hne rest hr
          obtain ⟨rfl, rfl⟩ := List.cons.inj hr
          obtain ⟨gs, rfl, -⟩ := before_cons.mp hfs
          exact hne gs rfl
        refine ⟨rest, ?_, hb⟩
        rw [stepBracket.eq_7 _ _ _ (c :: cs) nofun (hone _ h1) (hone _ h2) (htwo _ _ h3)
          (htwo _ _ h4) (htwo _ _ h5), hr]
        rfl
      · exact .inr ⟨⟨_, rfl⟩, hl⟩

/-- A bracket that has come to a leftover is never closed. -/
theorem readInside_leftover {m : Modes} {b : OpenBracket} {outer : List OpenBracket}
    (h : Leftover ds) : readInside m b outer ds = none := by
  fun_induction readInside m b outer ds with
  | case1 => rfl
  | case2 b outer ds item es hst =>
    obtain ⟨⟨_, hst⟩, -⟩ := leftover_stepBracket (leftover_skipSpace h _) hst
    cases hst
  | case3 b outer ds b' outer' es hst ih =>
    exact ih (leftover_stepBracket (leftover_skipSpace h _) hst).2

/-- The inside of a bracket is read alone, since a step into the closing would leave the bracket
open. -/
theorem readInside_alone {m : Modes} {b : OpenBracket} {outer : List OpenBracket}
    (h : Before line cs ds) :
    ReadAlone line (readInside m b outer cs) (readInside m b outer ds) := by
  fun_induction readInside m b outer ds generalizing cs with
  | case1 => exact .none _
  | case2 b outer ds item es hst =>
    rcases stepBracket_alone (before_skipSpace h _) hst with ⟨rest, hr, hb⟩ | ⟨⟨_, hst⟩, -⟩
    · rw [readInside, hr]
      exact .some hb
    · cases hst
  | case3 b outer ds b' outer' es hst ih =>
    rcases stepBracket_alone (before_skipSpace h _) hst with ⟨rest, hr, hb⟩ | ⟨-, hl⟩
    · rw [readInside, hr]
      exact ih hb
    · rw [readInside_leftover hl]
      exact .none _

/-- **A bracket that is closed is closed within the expression**, and is read alone. -/
theorem readBracket_alone {m : Modes} (h : Before line cs ds) :
    ReadAlone line (readBracket m cs) (readBracket m ds) := by
  obtain ⟨hb, hr⟩ := before_readOpening h m.freeForm
  unfold readBracket
  simp only [hb]
  exact readInside_alone hr

end Motif.Regex
