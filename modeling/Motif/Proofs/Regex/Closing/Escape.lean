import Mathlib
import Motif.Regex.Bracket

/-!
# Reading before the end of a group: characters and escapes

An expression that is put in a group is read as it is read alone, up to where the group ends: the
characters that end it are neither digits nor letters of names, and they close no bracket and no
brace. This is shown of each function that reads, for the smallest parts first. What it reads with
the end of the group behind, it reads alone (`ReadAlone`).

It fails of one part only. An escape that is not finished where the expression ends goes on with
what follows it (`CutShort`).
-/

namespace Motif.Regex

/-- What free space and comments leave of the end of a group that the text ends with. Before the end
there is a line feed if `line`. A comment may reach over all of it. -/
inductive Closing (line : Bool) : List Char → Prop
  | nothing : Closing line []
  | close : Closing line [')', '\\', 'z']
  | lineClose (h : line = true) : Closing line ['\n', ')', '\\', 'z']

/-- The characters `ds` are those of `cs` with the end of a group behind. -/
def Before (line : Bool) (cs ds : List Char) : Prop :=
  ∃ t, Closing line t ∧ ds = cs ++ t

/-- Whatever is read with the end of a group behind is read alone, and before the end there is left
what is left alone. -/
def ReadAlone {α : Type} (line : Bool) (alone before : Option (α × List Char)) : Prop :=
  ∀ a ds, before = some (a, ds) → ∃ cs, alone = some (a, cs) ∧ Before line cs ds

variable {line : Bool} {cs ds t : List Char}

/-- Behind an expression that is at its end stands a closing alone. -/
theorem before_nil : Before line [] ds ↔ Closing line ds := by
  simp [Before]

/-- What has `c :: cs` before its closing begins with `c`. -/
theorem before_cons {c : Char} :
    Before line (c :: cs) ds ↔ ∃ es, ds = c :: es ∧ Before line cs es := by
  constructor
  · rintro ⟨t, ht, rfl⟩
    exact ⟨cs ++ t, rfl, t, ht, rfl⟩
  · rintro ⟨es, rfl, t, ht, rfl⟩
    exact ⟨t, ht, rfl⟩

theorem before_cons_cons {c d : Char} :
    Before line (c :: cs) (d :: ds) ↔ c = d ∧ Before line cs ds := by
  simp only [before_cons, List.cons.injEq]
  exact ⟨by rintro ⟨_, ⟨rfl, rfl⟩, h⟩; exact ⟨rfl, h⟩, fun ⟨hc, h⟩ => ⟨_, ⟨hc.symm, rfl⟩, h⟩⟩

/-- A character that ends no group is one of the expression. -/
theorem before_of_cons {c : Char} {es : List Char} (h : Before line cs (c :: es))
    (hc : c ≠ ')' ∧ c ≠ '\n') : ∃ rest, cs = c :: rest ∧ Before line rest es := by
  cases cs with
  | nil => cases before_nil.mp h <;> simp at hc
  | cons d cs =>
    obtain ⟨fs, he, hfs⟩ := before_cons.mp h
    obtain ⟨rfl, rfl⟩ := List.cons.inj he
    exact ⟨cs, rfl, hfs⟩

/-- A character that begins no closing is next before the end of the group iff it is next alone. -/
theorem before_head? (h : Before line cs ds) {c : Char} (hc : c ≠ ')' ∧ c ≠ '\n') :
    ds.head? = some c ↔ cs.head? = some c := by
  cases cs with
  | nil => cases before_nil.mp h <;> simp [hc.1.symm, hc.2.symm]
  | cons d cs =>
    obtain ⟨es, rfl, -⟩ := before_cons.mp h
    rfl

/-- Where both begin alike, they may be read one character further. -/
theorem before_tail {c : Char} (h : Before line cs ds) (hc : cs.head? = some c) :
    Before line cs.tail ds.tail := by
  obtain ⟨cs, rfl⟩ := List.head?_eq_some_iff.mp hc
  obtain ⟨es, rfl, hes⟩ := before_cons.mp h
  exact hes

section ReadAlone

variable {α β : Type}

/-- What fails before the end of the group says nothing of what is read alone. -/
theorem ReadAlone.none (alone : Option (α × List Char)) : ReadAlone line alone none := nofun

theorem ReadAlone.some {a : α} (h : Before line cs ds) :
    ReadAlone line (some (a, cs)) (some (a, ds)) := by
  intro b es he
  obtain ⟨rfl, rfl⟩ := Prod.mk.inj (Option.some.inj he)
  exact ⟨cs, rfl, h⟩

/-- A value that does not depend on what is read, with both texts left as they are. -/
theorem ReadAlone.map_const (o : Option α) (h : Before line cs ds) :
    ReadAlone line (o.map (·, cs)) (o.map (·, ds)) := by
  cases o with
  | none => exact .none _
  | some a => exact .some h

/-- Two steps in a row are read alone if the first is, and the second is from wherever the first one
ends. -/
theorem ReadAlone.bind {x y : Option (α × List Char)} {f : α × List Char → Option (β × List Char)}
    (h : ReadAlone line x y)
    (hf : ∀ a cs ds, Before line cs ds → ReadAlone line (f (a, cs)) (f (a, ds))) :
    ReadAlone line (x.bind f) (y.bind f) := by
  intro b es he
  obtain ⟨⟨a, ds⟩, hy, he⟩ := Option.bind_eq_some_iff.mp he
  obtain ⟨cs, rfl, hcs⟩ := h a ds hy
  exact hf a cs ds hcs b es he

theorem ReadAlone.map {x y : Option (α × List Char)} (f : α → β) (h : ReadAlone line x y) :
    ReadAlone line (x.map fun (a, cs) => (f a, cs)) (y.map fun (a, cs) => (f a, cs)) := by
  intro b es he
  obtain ⟨⟨a, ds⟩, hy, he⟩ := Option.map_eq_some_iff.mp he
  obtain ⟨cs, rfl, hcs⟩ := h a ds hy
  obtain ⟨rfl, rfl⟩ := Prod.mk.inj he
  exact ⟨cs, rfl, hcs⟩

end ReadAlone

/-! ## Free space -/

/-- Free space leaves a closing of a closing. In a comment the closing may be gone altogether. -/
theorem Closing.skipped (h : Closing line t) (inComment : Bool) :
    Closing line (skipFree inComment t) := by
  cases h with
  | nothing => exact .nothing
  | close =>
    cases inComment with
    | false => exact .close
    | true => exact .nothing
  | lineClose =>
    -- the line feed ends the comment, and is itself free space where there is none
    cases inComment <;> exact .close

/-- A comment of the expression is read as one, or it runs to the end of the expression and on over
the closing. -/
theorem before_skipFree (h : Before line cs ds) (inComment : Bool) :
    Before line (skipFree inComment cs) (skipFree inComment ds) := by
  induction cs generalizing inComment ds with
  | nil => exact before_nil.mpr ((before_nil.mp h).skipped inComment)
  | cons c cs ih =>
    obtain ⟨es, rfl, hes⟩ := before_cons.mp h
    rw [skipFree, skipFree]
    split_ifs
    · exact ih hes _
    · exact ih hes _
    · exact ih hes _
    · exact h

theorem before_skipSpace (h : Before line cs ds) (free : Bool) :
    Before line (skipSpace free cs) (skipSpace free ds) := by
  unfold skipSpace
  split
  · exact before_skipFree h _
  · exact h

/-- The line feed of a closing is a blank: it goes with the blanks that end the expression. -/
theorem before_dropBlanks (h : Before line cs ds) :
    Before line (cs.dropWhile Text.isBlank) (ds.dropWhile Text.isBlank) := by
  induction cs generalizing ds with
  | nil =>
    rw [List.dropWhile_nil, before_nil]
    cases before_nil.mp h with
    | nothing => exact .nothing
    | close | lineClose => exact .close
  | cons c cs ih =>
    obtain ⟨es, rfl, hes⟩ := before_cons.mp h
    rw [List.dropWhile_cons, List.dropWhile_cons]
    split_ifs
    · exact ih hes
    · exact h

/-! ## Numbers -/

/-- No digit stands in a closing, so a number is the same number with the closing behind. -/
theorem before_readDigits (h : Before line cs ds) (free : Bool) (n : Option Nat) :
    (readDigits free n ds).1 = (readDigits free n cs).1 ∧
      Before line (readDigits free n cs).2 (readDigits free n ds).2 := by
  fun_induction readDigits free n cs generalizing ds with
  | case1 n =>
    have hsame : readDigits free n ds = (n, ds) := by
      cases before_nil.mp h <;> simp [readDigits]
    rw [hsame]
    exact ⟨rfl, h⟩
  | case2 n c rest hc ih =>
    obtain ⟨es, rfl, hes⟩ := before_cons.mp h
    rw [readDigits, if_pos hc]
    exact ih (before_skipSpace hes _)
  | case3 n c rest hc =>
    obtain ⟨es, rfl, -⟩ := before_cons.mp h
    rw [readDigits, if_neg hc]
    exact ⟨rfl, h⟩

theorem skipBlanks_close (free : Bool) : skipBlanks free [')', '\\', 'z'] = [')', '\\', 'z'] := by
  rw [skipBlanks, if_neg (by decide)]

/-- The blanks after a bound may take the line feed of the closing with them, and nothing else of
it. -/
theorem before_skipBlanks (h : Before line cs ds) (free : Bool) :
    Before line (skipBlanks free cs) (skipBlanks free ds) := by
  fun_induction skipBlanks free cs generalizing ds with
  | case1 =>
    rw [before_nil]
    cases before_nil.mp h with
    | nothing => rw [skipBlanks]; exact .nothing
    | close => rw [skipBlanks_close]; exact .close
    | lineClose =>
      have hskip : skipSpace free [')', '\\', 'z'] = [')', '\\', 'z'] := by cases free <;> rfl
      rw [skipBlanks, if_pos (by decide), hskip, skipBlanks_close]
      exact .close
  | case2 c rest hc ih =>
    obtain ⟨es, rfl, hes⟩ := before_cons.mp h
    rw [skipBlanks, if_pos hc]
    exact ih (before_skipSpace hes _)
  | case3 c rest hc =>
    obtain ⟨es, rfl, -⟩ := before_cons.mp h
    rw [skipBlanks, if_neg hc]
    exact h

/-- A bound of a repetition is read alone. -/
theorem readBound_alone (h : Before line cs ds) (free : Bool) :
    ReadAlone line (readBound free cs) (readBound free ds) := by
  obtain ⟨hn, hr⟩ := before_readDigits (before_dropBlanks h) free none
  intro n es he
  unfold readBound at he ⊢
  generalize readDigits free none (ds.dropWhile Text.isBlank) = p at *
  generalize readDigits free none (cs.dropWhile Text.isBlank) = q at *
  obtain ⟨k, es'⟩ := p
  obtain ⟨k', rest⟩ := q
  obtain rfl : k = k' := hn
  dsimp only at he hr ⊢
  split at he
  · split at he
    · rename_i hlt
      obtain ⟨rfl, rfl⟩ := Prod.mk.inj (Option.some.inj he)
      exact ⟨_, if_pos hlt, before_skipBlanks hr _⟩
    · cases he
  · cases he

/-- A number in braces is read alone: the closing has neither a hex digit nor a brace. -/
theorem readBraced_alone {free : Bool} {n : Option Nat} (h : Before line cs ds) :
    ReadAlone line (readBraced free n cs) (readBraced free n ds) := by
  fun_induction readBraced free n cs generalizing ds with
  | case1 n =>
    intro k es he
    cases before_nil.mp h <;> simp [readBraced, hexValue?] at he
  | case2 n rest =>
    obtain ⟨es, rfl, hes⟩ := before_cons.mp h
    rw [readBraced]
    exact .map_const n (before_skipSpace hes _)
  | case3 n c rest hc d hd ih =>
    obtain ⟨es, rfl, hes⟩ := before_cons.mp h
    rw [readBraced.eq_3 _ _ _ _ hc]
    simp only [hd]
    exact ih (before_skipSpace hes _)
  | case4 n c rest hc hd =>
    obtain ⟨es, rfl, hes⟩ := before_cons.mp h
    rw [readBraced.eq_3 _ _ _ _ hc]
    simp only [hd]
    exact .none _

/-- A number of `k` hex digits is read alone: the digits do not run into the closing. -/
theorem readFixed_alone {free : Bool} {n k : Nat} (h : Before line cs ds) :
    ReadAlone line (readFixed free n k cs) (readFixed free n k ds) := by
  fun_induction readFixed free n k cs generalizing ds with
  | case1 n cs =>
    rw [readFixed]
    exact .some h
  | case2 n k =>
    intro v es he
    cases before_nil.mp h <;> simp [readFixed, hexValue?] at he
  | case3 n k c rest d hd ih =>
    obtain ⟨es, rfl, hes⟩ := before_cons.mp h
    simp only [readFixed, hd]
    exact ih (before_skipSpace hes _)
  | case4 n k c rest hd =>
    obtain ⟨es, rfl, hes⟩ := before_cons.mp h
    simp only [readFixed, hd]
    exact .none _

theorem readCodePoint_alone {free : Bool} {k : Nat} (h : Before line cs ds) :
    ReadAlone line (readCodePoint free k cs) (readCodePoint free k ds) := by
  have hchar : ∀ (n : Nat) (cs ds : List Char), Before line cs ds →
      ReadAlone line ((charOfNat? n).map (·, cs)) ((charOfNat? n).map (·, ds)) :=
    fun n _ _ h => .map_const _ h
  unfold readCodePoint
  split
  · rename_i rest
    obtain ⟨es, rfl, hes⟩ := before_cons.mp h
    exact (readBraced_alone (before_skipSpace hes _)).bind hchar
  · rename_i hcs
    split
    · rename_i rest
      -- no closing begins with a brace
      cases cs with
      | nil => cases before_nil.mp h
      | cons c cs =>
        obtain ⟨es, he, -⟩ := before_cons.mp h
        exact absurd (by rw [(List.cons.inj he).1]) (hcs cs)
    · exact (readFixed_alone h).bind hchar

/-! ## Escapes -/

/-- The name in `\b{...}` is read alone. -/
theorem readBoundaryName_alone {free : Bool} {name : List Char} (h : Before line cs ds) :
    ReadAlone line (readBoundaryName free name cs) (readBoundaryName free name ds) := by
  fun_induction readBoundaryName free name cs generalizing ds with
  | case1 name =>
    intro v es he
    cases before_nil.mp h <;> simp [readBoundaryName, isBoundaryName] at he
  | case2 name c rest hc ih =>
    obtain ⟨es, rfl, hes⟩ := before_cons.mp h
    rw [readBoundaryName, if_pos hc]
    exact ih (before_skipSpace hes _)
  | case3 name rest hc =>
    obtain ⟨es, rfl, hes⟩ := before_cons.mp h
    rw [readBoundaryName, if_neg hc, if_pos rfl]
    exact .map_const _ hes
  | case4 name c rest hc hb =>
    obtain ⟨es, rfl, hes⟩ := before_cons.mp h
    rw [readBoundaryName, if_neg hc, if_neg hb]
    exact .none _

/-- The name in `\p{...}` is read alone, since the brace that ends it is none of the closing. -/
theorem readPropertyName_alone {free : Bool} {name : List Char} (h : Before line cs ds) :
    ReadAlone line (readPropertyName free name cs) (readPropertyName free name ds) := by
  fun_induction readPropertyName free name cs generalizing ds with
  | case1 name =>
    intro v es he
    have h1 : Text.isBlank ')' = false ∧ Text.isBlank '\\' = false ∧ Text.isBlank 'z' = false := by
      decide
    cases before_nil.mp h <;> cases free <;>
      simp [readPropertyName, skipSpace, skipFree, h1] at he
  | case2 name rest =>
    obtain ⟨es, rfl, hes⟩ := before_cons.mp h
    rw [readPropertyName]
    exact .some hes
  | case3 name c rest hc ih =>
    obtain ⟨es, rfl, hes⟩ := before_cons.mp h
    rw [readPropertyName.eq_3 _ _ _ _ hc]
    exact ih (before_skipSpace hes _)

theorem before_head?_beq (h : Before line cs ds) {c : Char} (hc : c ≠ ')' ∧ c ≠ '\n') :
    (ds.head? == some c) = (cs.head? == some c) := by
  rw [Bool.eq_iff_iff, beq_iff_eq, beq_iff_eq, before_head? h hc]

/-- What an escape that the expression ends in the middle of reads beyond it: `cs` is there of it
after the backslash, `es` is left. -/
inductive CutShort (line free : Bool) : List Char → Escape → List Char → Prop
  | close : CutShort line free [] (.char ')') ['\\', 'z']
  | lineClose (h : line = true) : CutShort line free [] (.char '\n') [')', '\\', 'z']
  | brace {cs es : List Char} (h : Closing line (skipSpace free es)) :
      CutShort line free cs (.wordTest .boundary) ('\x7b' :: es)

/-- A word test is read alone. The brace of a name is the one thing that may be cut short: where
only a closing follows it, `\b` is read without the name, and the brace is left. -/
theorem readBoundary_alone {free : Bool} {w : WordTest} {es : List Char} (h : Before line cs ds)
    (he : readBoundary free ds = some (w, es)) :
    (∃ rest, readBoundary free cs = some (w, rest) ∧ Before line rest es) ∨
      w = .boundary ∧ ∃ fs, es = '\x7b' :: fs ∧ Closing line (skipSpace free fs) := by
  have hplain : ∀ cs, (∀ rest, cs ≠ '\x7b' :: rest) →
      readBoundary free cs = some (.boundary, cs) := by
    intro cs hcs
    unfold readBoundary
    split
    · exact absurd rfl (hcs _)
    · rfl
  cases cs with
  | nil =>
    left
    have hds : ∀ rest, ds ≠ '\x7b' :: rest := by
      rintro rest rfl
      cases before_nil.mp h
    obtain ⟨rfl, rfl⟩ := Prod.mk.inj (Option.some.inj ((hplain ds hds).symm.trans he))
    exact ⟨[], hplain [] nofun, h⟩
  | cons c cs =>
    obtain ⟨fs, rfl, hfs⟩ := before_cons.mp h
    by_cases hc : c = '\x7b'
    · subst hc
      have hs := before_skipSpace hfs free
      simp only [readBoundary] at he ⊢
      generalize skipSpace free cs = rs at *
      cases rs with
      | nil =>
        right
        have ht := before_nil.mp hs
        generalize hg : skipSpace free fs = gs at *
        cases ht with
        | nothing => cases he
        | close =>
          obtain ⟨rfl, rfl⟩ := Prod.mk.inj (Option.some.inj he)
          exact ⟨rfl, fs, rfl, hg ▸ .close⟩
        | lineClose hline =>
          obtain ⟨rfl, rfl⟩ := Prod.mk.inj (Option.some.inj he)
          exact ⟨rfl, fs, rfl, hg ▸ .lineClose hline⟩
      | cons d rs =>
        left
        obtain ⟨gs, hg, hgs⟩ := before_cons.mp hs
        rw [hg] at he
        dsimp only at he ⊢
        split at he
        · rename_i hd
          rw [if_pos hd]
          exact readBoundaryName_alone (hg ▸ hs) _ _ he
        · rename_i hd
          rw [if_neg hd]
          obtain ⟨rfl, rfl⟩ := Prod.mk.inj (Option.some.inj he)
          exact ⟨_, rfl, h⟩
    · left
      have hne : ∀ cs rest, c :: cs ≠ '\x7b' :: rest := fun _ _ h => hc (List.cons.inj h).1
      obtain ⟨rfl, rfl⟩ := Prod.mk.inj (Option.some.inj ((hplain _ (hne fs)).symm.trans he))
      exact ⟨c :: cs, hplain _ (hne cs), h⟩

section

variable [Text.PropertyTables]

/-- A property is read alone. Its letter is not taken from the closing, for no table has a property
of the name `)` or of a line feed. -/
theorem readProperty_alone {free : Bool} (h : Before line cs ds) :
    ReadAlone line (readProperty free cs) (readProperty free ds) := by
  have hs := before_skipSpace h free
  unfold readProperty
  generalize skipSpace free cs = cs at *
  generalize skipSpace free ds = ds at *
  split
  · intro v es he
    cases before_nil.mp hs <;>
      simp [Text.PropertyTables.named?_paren, Text.PropertyTables.named?_lineFeed] at he
  · obtain ⟨es, rfl, -⟩ := before_cons.mp hs
    exact .none _
  · obtain ⟨es, rfl, hes⟩ := before_cons.mp hs
    exact (readPropertyName_alone (before_skipSpace hes _)).bind fun name _ _ h => .map_const _ h
  · rename_i c rest hslash hbrace
    obtain ⟨es, rfl, hes⟩ := before_cons.mp hs
    split
    · rename_i heq; cases heq
    · rename_i heq; exact absurd (List.cons.inj heq).1 hslash
    · rename_i heq; exact absurd (List.cons.inj heq).1 hbrace
    · rename_i heq; obtain ⟨rfl, rfl⟩ := List.cons.inj heq; exact .map_const _ hes

/-- An escape is read alone, or it is cut short by the end of the expression. -/
theorem readEscape_alone {free : Bool} {e : Escape} {es : List Char} (h : Before line cs ds)
    (he : readEscape free ds = some (e, es)) :
    (∃ rest, readEscape free cs = some (e, rest) ∧ Before line rest es) ∨
      CutShort line free cs e es := by
  fun_cases readEscape free cs with
  | case1 =>
    right
    cases before_nil.mp h with
    | nothing => cases he
    | close =>
      obtain ⟨rfl, rfl⟩ := Prod.mk.inj (Option.some.inj he)
      exact .close
    | lineClose hline =>
      obtain ⟨rfl, rfl⟩ := Prod.mk.inj (Option.some.inj he)
      exact .lineClose hline
  | case2 cs =>
    left
    obtain ⟨fs, rfl, hfs⟩ := before_cons.mp h
    rw [readEscape] at he
    dsimp only at he
    -- the brace decides whether the number is that of a character or of a byte
    rw [before_head?_beq (before_skipSpace hfs _) (by decide)] at he
    let unit (c : Char) : Escape :=
      if (skipSpace free cs).head? == some '\x7b' then .char c else .byte c
    exact (readCodePoint_alone (before_skipSpace hfs _)).map unit _ _ he
  | case3 cs =>
    left
    obtain ⟨fs, rfl, hfs⟩ := before_cons.mp h
    exact (readCodePoint_alone (before_skipSpace hfs _)).map Escape.char _ _ he
  | case4 cs =>
    left
    obtain ⟨fs, rfl, hfs⟩ := before_cons.mp h
    exact (readCodePoint_alone (before_skipSpace hfs _)).map Escape.char _ _ he
  | case5 cs =>
    left
    obtain ⟨fs, rfl, hfs⟩ := before_cons.mp h
    exact (readProperty_alone hfs).map (Escape.property · false) _ _ he
  | case6 cs =>
    left
    obtain ⟨fs, rfl, hfs⟩ := before_cons.mp h
    exact (readProperty_alone hfs).map (Escape.property · true) _ _ he
  | case7 cs =>
    obtain ⟨fs, rfl, hfs⟩ := before_cons.mp h
    rw [readEscape] at he
    obtain ⟨⟨w, gs⟩, hw, he⟩ := Option.map_eq_some_iff.mp he
    obtain ⟨rfl, rfl⟩ := Prod.mk.inj he
    rcases readBoundary_alone hfs hw with ⟨rest, hr, hb⟩ | ⟨rfl, fs, rfl, hc⟩
    · exact .inl ⟨rest, by rw [hr]; rfl, hb⟩
    · exact .inr (.brace hc)
  | case8 c cs h1 h2 h3 h4 h5 h6 hc =>
    left
    obtain ⟨fs, rfl, hfs⟩ := before_cons.mp h
    rw [readEscape.eq_8 _ _ _ h1 h2 h3 h4 h5 h6, if_pos hc] at he
    obtain ⟨rfl, rfl⟩ := Prod.mk.inj (Option.some.inj he)
    exact ⟨cs, rfl, hfs⟩
  | case9 c cs h1 h2 h3 h4 h5 h6 hc =>
    left
    obtain ⟨fs, rfl, hfs⟩ := before_cons.mp h
    rw [readEscape.eq_8 _ _ _ h1 h2 h3 h4 h5 h6, if_neg hc] at he
    exact ReadAlone.map_const _ hfs _ _ he

/-- A character or an escape is read alone, where an escape may be cut short. -/
theorem readUnit_alone {free : Bool} {e : Escape} {es : List Char} {c : Char}
    (h : Before line (c :: cs) ds) (he : readUnit free ds = some (e, es)) :
    (∃ rest, readUnit free (c :: cs) = some (e, rest) ∧ Before line rest es) ∨
      c = '\\' ∧ CutShort line free cs e es := by
  obtain ⟨fs, rfl, hfs⟩ := before_cons.mp h
  by_cases hc : c = '\\'
  · subst hc
    exact (readEscape_alone hfs he).imp_right (⟨rfl, ·⟩)
  · have hplain : ∀ cs, readUnit free (c :: cs) = some (.char c, cs) := by
      intro cs
      rw [readUnit.eq_3 _ _ _ hc]
    rw [hplain] at he
    obtain ⟨rfl, rfl⟩ := Prod.mk.inj (Option.some.inj he)
    exact .inl ⟨cs, hplain cs, hfs⟩

end

end Motif.Regex
