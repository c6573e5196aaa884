import Motif.Proofs.Notation.RoundTrip

/-!
# Reading within a longer pattern

What is read from a text is read from it too where it stands within a longer one, if a blank, a
closing bracket or nothing comes after it: each of these ends whatever the end of the text would
end. Only the places of expressions are shifted, by the number of bytes that come before the text.

* `carries_text`, `carries_source`: literals end by themselves.
* `carries_tokenTest`: a test ends before anything that closes it.
* `carries_quantifier`: so does a quantifier.
-/

namespace Motif.Pattern

/-! ## Texts within others -/

/-- An expression with `k` more bytes before it. -/
def RegexLiteral.shift (k : Nat) (r : RegexLiteral) : RegexLiteral :=
  { r with index := r.index + k }

/-- A text is empty or begins with a blank or a closing bracket. -/
def Closes (rest : List Char) : Prop :=
  ∀ c ∈ rest.head?, Text.isBlank c = true ∨ (closing? c).isSome = true

/-- The cursor in a text that has `k` more bytes before it and goes on with `rest`. -/
def Cursor.within (k : Nat) (rest : List Char) (a : Cursor) : Cursor :=
  ⟨a.rest ++ rest, a.index + k⟩

namespace Closes

variable {rest : List Char} {c : Char}

/-- What closes is blank or a closing bracket. -/
theorem blank_or_closing (h : Closes rest) (hc : c ∈ rest.head?) :
    Text.isBlank c = true ∨ ∃ b : Bracket, c = b.closing := by
  refine (h c hc).imp_right fun hb => ?_
  obtain ⟨b, hb⟩ := Option.isSome_iff_exists.mp hb
  exact ⟨b, eq_of_closing? hb⟩

/-- What begins such a text ends a name. -/
theorem endsName (h : Closes rest) (hc : c ∈ rest.head?) : Pattern.endsName c = true := by
  rcases h.blank_or_closing hc with hb | ⟨b, rfl⟩
  · rw [Pattern.endsName, hb, Bool.or_true]
  · cases b <;> decide

/-- It ends a value that is not quoted. -/
theorem endsValue (h : Closes rest) (hc : c ∈ rest.head?) : Pattern.endsValue c = true := by
  rcases h.blank_or_closing hc with hb | ⟨b, rfl⟩
  · rw [Pattern.endsValue, hb, Bool.or_true]
  · cases b <;> decide

/-- A character that is neither blank nor a closing bracket does not come next. -/
theorem ne (h : Closes rest) (hc : c ∈ rest.head?) {d : Char}
    (hd : (Text.isBlank d || (closing? d).isSome) = false) : c ≠ d := by
  rintro rfl
  rw [Bool.or_eq_false_iff] at hd
  rcases h c hc with hb | hb
  · rw [hd.1] at hb
    cases hb
  · rw [hd.2] at hb
    cases hb

theorem isAlpha (h : Closes rest) (hc : c ∈ rest.head?) : c.isAlpha = false :=
  isAlpha_of_endsName (h.endsName hc)

theorem isDigit_of_isBlank (h : Text.isBlank c = true) : c.isDigit = false := by
  rw [Bool.eq_false_iff]
  intro hd
  have hval : c.toNat = c.val.toNat := rfl
  simp [Char.isDigit, UInt32.le_iff_toNat_le] at hd
  simp [Text.isBlank, Text.blankRuns] at h
  omega

/-- It is no digit either, so a number before it is read to its end. -/
theorem isDigit (h : Closes rest) (hc : c ∈ rest.head?) : c.isDigit = false := by
  rcases h.blank_or_closing hc with hb | ⟨b, rfl⟩
  · exact isDigit_of_isBlank hb
  · cases b <;> decide

end Closes

namespace Reading

variable {α β γ δ : Type} {k : Nat} {rest : List Char} {g : α → β}

/-- What is read with `r` is read with `r'` in the longer text, but for `g`. -/
def Carries (k : Nat) (rest : List Char) (g : α → β) (r : Reading α) (r' : Reading β) : Prop :=
  ∀ v b, r = .ok (v, b) → r' = .ok (g v, b.within k rest)

/-- A fault is carried anywhere: only what is read has to be read within. -/
theorem carries_error (f : Fault) (r' : Reading β) : Carries k rest g (.error f) r' :=
  fun _ _ h => nomatch h

/-- A value that is read is carried along, with what is left after it. -/
theorem carries_ok (v : α) (b : Cursor) :
    Carries k rest g (.ok (v, b)) (.ok (g v, b.within k rest)) := by
  intro v' b' h
  obtain ⟨rfl, rfl⟩ := Prod.mk.inj (Except.ok.inj h)
  rfl

/-- Values that are made of what is read are carried along with it. -/
theorem Carries.map {r : Reading α} {r' : Reading β} (h : Carries k rest g r r') {g' : γ → δ}
    {f : α → γ} {f' : β → δ} (hf : ∀ v, f' (g v) = g' (f v)) :
    Carries k rest g' (r.map f) (r'.map f') := by
  intro w b hw
  obtain ⟨v, hv, rfl⟩ := map_eq_ok hw
  rw [h v b hv, ← hf v]
  rfl

end Reading

open Reading

variable {k : Nat} {rest : List Char}

theorem within_past (i : Nat) (c : Char) (cs : List Char) :
    (Cursor.past i c cs).within k rest = .past (i + k) c (cs ++ rest) :=
  congrArg (Cursor.mk _) (Nat.add_right_comm _ _ _)

/-- What satisfies `p` ends where it did. -/
theorem takeWhile_within {p : Char → Bool} (hp : ∀ c ∈ rest.head?, p c = false) (a : Cursor) :
    (a.within k rest).takeWhile p = a.takeWhile p ∧
      (a.within k rest).dropWhile p = (a.dropWhile p).within k rest := by
  have hrest : rest.takeWhile p = [] ∧ rest.dropWhile p = rest := by
    cases rest with
    | nil => exact ⟨rfl, rfl⟩
    | cons c rest => simp [hp c rfl]
  have hlist (cs : List Char) : (cs ++ rest).takeWhile p = cs.takeWhile p ∧
      (cs ++ rest).dropWhile p = cs.dropWhile p ++ rest := by
    induction cs with
    | nil => exact hrest
    | cons c cs ih =>
      cases hc : p c with
      | true => simp [hc, ih]
      | false => simp [hc]
  obtain ⟨htake, hdrop⟩ := hlist a.rest
  refine ⟨htake, ?_⟩
  rw [Cursor.dropWhile, Cursor.dropWhile, Cursor.within, Cursor.within, htake, hdrop,
    Nat.add_right_comm]

/-- A name ends where it did. -/
theorem takeWhile_name_within (hrest : Closes rest) (k : Nat) (a : Cursor) :
    (a.within k rest).takeWhile (!endsName ·) = a.takeWhile (!endsName ·) ∧
      (a.within k rest).dropWhile (!endsName ·) = (a.dropWhile (!endsName ·)).within k rest :=
  takeWhile_within (fun _ hc => congrArg not (hrest.endsName hc)) a

/-- A bare value ends where it did. -/
theorem takeWhile_value_within (hrest : Closes rest) (k : Nat) (a : Cursor) :
    (a.within k rest).takeWhile (!endsValue ·) = a.takeWhile (!endsValue ·) ∧
      (a.within k rest).dropWhile (!endsValue ·) = (a.dropWhile (!endsValue ·)).within k rest :=
  takeWhile_within (fun _ hc => congrArg not (hrest.endsValue hc)) a

/-- Where something else than `d` comes next, so it does in the longer text. -/
theorem head?_within_ne {a : Cursor} {d : Char} (h : ∀ cs, a.rest ≠ d :: cs)
    (hd : ∀ c ∈ rest.head?, c ≠ d) : ∀ c ∈ (a.within k rest).rest.head?, c ≠ d := by
  obtain ⟨cs, i⟩ := a
  cases cs with
  | nil => exact hd
  | cons c cs =>
    intro e he
    obtain rfl : c = e := Option.some.inj he
    rintro rfl
    exact h cs rfl

/-! ## Literals -/

/-- A quoted text ends at its quote, whatever follows. -/
theorem carries_text (start start' : Nat) (cs : List Char) (i : Nat) :
    Carries k rest id (readText start cs i) (readText start' (cs ++ rest) (i + k)) := by
  fun_induction readText start cs i with
  | case1 => exact carries_error _ _
  | case2 cs i =>
    rw [List.cons_append, readText, ← within_past]
    exact carries_ok _ _
  | case3 => exact carries_error _ _
  | case4 e cs i c he ih =>
    rw [Nat.add_right_comm] at ih
    rw [List.cons_append, List.cons_append, readText, he]
    exact ih.map fun _ => rfl
  | case5 => exact carries_error _ _
  | case6 c cs i hq hlast hpair ih =>
    have hc := ne_backslash hlast hpair
    rw [Nat.add_right_comm] at ih
    rw [List.cons_append, readText]
    · exact ih.map fun _ => rfl
    · exact hq
    all_goals simp [hc]

/-- The source of a literal ends at its slash, whatever follows. -/
theorem carries_source (start start' : Nat) (cs : List Char) (i : Nat) :
    Carries k rest id (readSource start cs i) (readSource start' (cs ++ rest) (i + k)) := by
  fun_induction readSource start cs i with
  | case1 => exact carries_error _ _
  | case2 cs i =>
    rw [List.cons_append, readSource, ← within_past]
    exact carries_ok _ _
  | case3 => exact carries_error _ _
  | case4 cs i ih =>
    rw [Nat.add_right_comm] at ih
    rw [List.cons_append, List.cons_append, readSource]
    exact ih.map fun _ => rfl
  | case5 e cs i he ih =>
    rw [Nat.add_right_comm] at ih
    rw [List.cons_append, List.cons_append, readSource]
    · exact ih.map fun _ => rfl
    · exact he
  | case6 c cs i hq hlast _ hpair ih =>
    have hc := ne_backslash hlast hpair
    rw [Nat.add_right_comm] at ih
    rw [List.cons_append, readSource]
    · exact ih.map fun _ => rfl
    · exact hq
    all_goals simp [hc]

/-- Flags are letters, and none of them begins what follows. -/
theorem carries_flags (hrest : Closes rest) (seen cs : List Char) (i : Nat) :
    Carries k rest id (readFlags seen cs i) (readFlags seen (cs ++ rest) (i + k)) := by
  fun_induction readFlags seen cs i with
  | case1 seen i =>
    have hstop : readFlags seen rest (i + k) = .ok ([], ⟨rest, i + k⟩) := by
      cases hr : rest with
      | nil => rfl
      | cons c cs =>
        rw [readFlags, hrest.isAlpha (by rw [hr]; rfl)]
        rfl
    rw [List.nil_append, hstop]
    exact carries_ok _ _
  | case2 seen c cs i halpha hc ih =>
    rw [Nat.add_right_comm] at ih
    rw [List.cons_append, readFlags, if_pos halpha, if_pos hc]
    exact ih.map fun _ => rfl
  | case3 => exact carries_error _ _
  | case4 seen c cs i halpha =>
    rw [List.cons_append, readFlags, if_neg halpha]
    exact carries_ok _ _

/-- The place of an expression is where reading it began. -/
theorem carries_regex (hrest : Closes rest) (start : Nat) (cs : List Char) (i : Nat) :
    Carries k rest (RegexLiteral.shift k) (readRegex start cs i)
      (readRegex (start + k) (cs ++ rest) (i + k)) := by
  intro r b h
  unfold readRegex at h
  split at h
  · cases h
  · rename_i source a hs
    have hflags : Carries k rest (RegexLiteral.shift k)
        ((readFlags [] a.rest a.index).map fun flags => ⟨.ofList source, .ofList flags, start⟩)
        ((readFlags [] (a.rest ++ rest) (a.index + k)).map fun flags =>
          ⟨.ofList source, .ofList flags, start + k⟩) :=
      (carries_flags hrest [] a.rest a.index).map fun _ => rfl
    rw [readRegex, carries_source start (start + k) cs i _ _ hs]
    exact hflags r b h

/-! ## Tests -/

/-- A value that is not quoted goes up to what ends a value. -/
theorem readExpected_of_ne {name : String} {nameAt : Nat} {a : Cursor}
    (h : ∀ c ∈ a.rest.head?, c ≠ '\'' ∧ c ≠ '/') :
    readExpected name nameAt a =
      if a.takeWhile (!endsValue ·) = [] then .error (.missingValue name nameAt)
      else .ok (.text (.ofList (a.takeWhile (!endsValue ·))), a.dropWhile (!endsValue ·)) := by
  unfold readExpected
  split
  · rename_i hr
    exact absurd rfl (h _ (by rw [hr]; rfl)).1
  · rename_i hr
    exact absurd rfl (h _ (by rw [hr]; rfl)).2
  · rfl

/-- An expected value is read the same within a text. -/
theorem carries_expected (hrest : Closes rest) (name : String) (nameAt nameAt' : Nat)
    (a : Cursor) :
    Carries k rest (Expected.rewrite (RegexLiteral.shift k)) (readExpected name nameAt a)
      (readExpected name nameAt' (a.within k rest)) := by
  intro v b h
  obtain ⟨cs, i⟩ := a
  unfold readExpected at h
  split at h
  · rename_i ds hr
    obtain rfl : cs = '\'' :: ds := hr
    have htext : Carries k rest (Expected.rewrite (RegexLiteral.shift k))
        ((readText i ds (i + 1)).map fun s => .text (.ofList s))
        ((readText (i + k) (ds ++ rest) (i + 1 + k)).map fun s => .text (.ofList s)) :=
      (carries_text i (i + k) ds (i + 1)).map fun _ => rfl
    rw [Nat.add_right_comm] at htext
    exact htext v b h
  · rename_i ds hr
    obtain rfl : cs = '/' :: ds := hr
    have hregex : Carries k rest (Expected.rewrite (RegexLiteral.shift k))
        ((readRegex i ds (i + 1)).map .regex)
        ((readRegex (i + k) (ds ++ rest) (i + 1 + k)).map .regex) :=
      (carries_regex hrest i ds (i + 1)).map fun _ => rfl
    rw [Nat.add_right_comm i 1 k] at hregex
    exact hregex v b h
  · rename_i hquote hslash
    obtain ⟨htake, hdrop⟩ := takeWhile_value_within hrest k ⟨cs, i⟩
    dsimp only at h
    split at h
    · cases h
    · rename_i hne
      have hhead : ∀ c ∈ (Cursor.within k rest ⟨cs, i⟩).rest.head?, c ≠ '\'' ∧ c ≠ '/' := by
        cases cs with
        | nil => exact absurd rfl hne
        | cons c cs =>
          intro d hd
          obtain rfl : c = d := Option.some.inj hd
          exact ⟨fun hc => hquote cs (congrArg (· :: cs) hc),
            fun hc => hslash cs (congrArg (· :: cs) hc)⟩
      rw [readExpected_of_ne hhead, htake, hdrop, if_neg hne]
      obtain ⟨rfl, rfl⟩ := Prod.mk.inj (Except.ok.inj h)
      rfl

/-- A constraint is read the same within a text. -/
theorem carries_constraint (hrest : Closes rest) (a : Cursor) :
    Carries k rest (Constraint.rewrite (RegexLiteral.shift k)) (readConstraint a)
      (readConstraint (a.within k rest)) := by
  intro c b h
  obtain ⟨htake, hdrop⟩ := takeWhile_name_within hrest k a
  unfold readConstraint at h
  dsimp only at h
  split at h
  · cases h
  · rename_i hne
    split at h
    · rename_i cs hr
      obtain ⟨v, hv, rfl⟩ := Reading.map_eq_ok h
      have hv' := carries_expected (k := k) hrest _ _ (a.within k rest).index _ v b hv
      rw [within_past] at hv'
      refine readConstraint_of_value htake hne ?_ hv'
      rw [hdrop, Cursor.within, hr]
      rfl
    · rename_i hr
      obtain ⟨rfl, rfl⟩ := Prod.mk.inj (Except.ok.inj h)
      refine readConstraint_of_name htake hne hdrop (head?_within_ne (fun cs h => hr cs h) ?_)
      exact fun c hc => hrest.ne hc (by decide)

theorem carries_constraints (hrest : Closes rest) (a : Cursor) :
    Carries k rest (List.map (Constraint.rewrite (RegexLiteral.shift k))) (readConstraints a)
      (readConstraints (a.within k rest)) := by
  fun_induction readConstraints a with
  | case1 => exact carries_error _ _
  | case2 a cs hr c b hc ih =>
    obtain ⟨_, i⟩ := a
    obtain rfl : _ = ',' :: cs := hr
    have hc' := carries_constraint (k := k) hrest _ c b hc
    rw [within_past] at hc'
    have hcons : readConstraints (Cursor.within k rest ⟨',' :: cs, i⟩) = _ :=
      readConstraints_cons hc'
    rw [hcons]
    exact ih.map fun _ => rfl
  | case3 a hr =>
    have hhead := head?_within_ne (k := k) (a := a) (fun cs h => hr cs h)
      (fun c hc => hrest.ne hc (by decide))
    have hnone : readConstraints (a.within k rest) = _ := readConstraints_of_ne hhead _
    rw [hnone]
    exact carries_ok _ _

theorem readTokenTest_of_value {a c : Cursor} {kind : Option Token.Kind} {cs : List Char} {j : Nat}
    {v : Expected} (hkind : kindNamed? (.ofList (a.takeWhile (!endsName ·))) = some kind)
    (hdrop : a.dropWhile (!endsName ·) = ⟨'=' :: cs, j⟩)
    (hv : readExpected Token.textName a.index (.past j '=' cs) = .ok (v, c)) :
    readTokenTest a =
      (readConstraints c).map fun cs => ⟨kind, ⟨Token.textName, v⟩ :: cs⟩ := by
  rw [readTokenTest]
  simp only [hkind, hdrop, hv]

theorem readTokenTest_of_ne {a b : Cursor} {kind : Option Token.Kind}
    (hkind : kindNamed? (.ofList (a.takeWhile (!endsName ·))) = some kind)
    (hdrop : a.dropWhile (!endsName ·) = b) (hb : ∀ c ∈ b.rest.head?, c ≠ '=') :
    readTokenTest a = (readConstraints b).map (⟨kind, ·⟩) := by
  rw [readTokenTest]
  simp only [hkind, hdrop]
  split
  · rename_i hcs
    exact absurd rfl (hb '=' (by rw [hcs]; rfl))
  · rfl

/-- A test of a token is read the same within a text. -/
theorem carries_tokenTest (hrest : Closes rest) (a : Cursor) :
    Carries k rest (TokenTest.rewrite (RegexLiteral.shift k)) (readTokenTest a)
      (readTokenTest (a.within k rest)) := by
  obtain ⟨htake, hdrop⟩ := takeWhile_name_within hrest k a
  intro t b h
  unfold readTokenTest at h
  dsimp only at h
  split at h
  · cases h
  · rename_i kind hkind
    rw [← htake] at hkind
    split at h
    · rename_i cs hr
      split at h
      · cases h
      · rename_i v c hv
        have hv' := carries_expected (k := k) hrest _ _ (a.within k rest).index _ v c hv
        have hcs : Carries k rest (TokenTest.rewrite (RegexLiteral.shift k))
            ((readConstraints c).map fun cs => ⟨kind, ⟨Token.textName, v⟩ :: cs⟩)
            ((readConstraints (c.within k rest)).map fun cs =>
              ⟨kind, ⟨Token.textName, v.rewrite (RegexLiteral.shift k)⟩ :: cs⟩) :=
          (carries_constraints hrest c).map fun _ => rfl
        have hdrop' : (a.within k rest).dropWhile (!endsName ·) =
            ⟨'=' :: (cs ++ rest), (a.dropWhile (!endsName ·)).index + k⟩ := by
          rw [hdrop, Cursor.within, hr]
          rfl
        rw [within_past] at hv'
        rw [readTokenTest_of_value hkind hdrop' hv']
        exact hcs t b h
    · rename_i hr
      have hcs : Carries k rest (TokenTest.rewrite (RegexLiteral.shift k))
          ((readConstraints (a.dropWhile (!endsName ·))).map (⟨kind, ·⟩))
          ((readConstraints ((a.dropWhile (!endsName ·)).within k rest)).map (⟨kind, ·⟩)) :=
        (carries_constraints hrest _).map fun _ => rfl
      have hne := head?_within_ne (k := k) (fun cs h => hr cs h)
        (fun c hc => hrest.ne hc (by decide))
      rw [readTokenTest_of_ne hkind hdrop hne]
      exact hcs t b h

/-! ## Quantifiers -/

theorem carries_number (hrest : Closes rest) (a : Cursor) :
    Carries k rest id (readNumber a) (readNumber (a.within k rest)) := by
  obtain ⟨htake, hdrop⟩ := takeWhile_within (k := k) (fun c hc => hrest.isDigit hc) a
  rw [readNumber, readNumber]
  simp only [htake, hdrop]
  split
  · exact carries_ok _ _
  · split
    · exact carries_ok _ _
    · exact carries_error _ _

/-- Where a range stands does not matter, unless it is refused. -/
theorem checkedSpan_congr {start : Nat} {min : UInt32} {max : Option UInt32} {s : Span}
    (h : checkedSpan start min max = .ok s) (start' : Nat) :
    checkedSpan start' min max = .ok s := by
  unfold checkedSpan at h ⊢
  split at h
  · cases h
  · rename_i hne
    rw [if_neg hne]
    split at h
    · cases h
    · rename_i hle
      rw [if_neg hle]
      exact h

theorem carries_rangeEnd (start start' : Nat) (min : UInt32) (max : Option UInt32) (a : Cursor) :
    Carries k rest id (readRangeEnd start min max a)
      (readRangeEnd start' min max (a.within k rest)) := by
  obtain ⟨cs, i⟩ := a
  unfold readRangeEnd
  split
  · rename_i ds hr
    obtain rfl : cs = '\x7d' :: ds := hr
    intro s b h
    obtain ⟨s', hs, h⟩ := Graph.map_eq_ok h
    obtain ⟨rfl, rfl⟩ := Prod.mk.inj h
    show (checkedSpan start' min max).map (·, Cursor.past (i + k) '\x7d' (ds ++ rest)) = _
    rw [checkedSpan_congr hs start', ← within_past]
    rfl
  · exact carries_error _ _
  · exact carries_error _ _

/-- The bounds of a quantifier are read the same within a text. -/
theorem carries_range (hrest : Closes rest) (start start' : Nat) (a : Cursor) :
    Carries k rest id (readRange start a) (readRange start' (a.within k rest)) := by
  intro s b h
  unfold readRange at h
  split at h
  · cases h
  · rename_i min c hmin
    have hmin' := carries_number (k := k) hrest a _ _ hmin
    obtain ⟨cs, i⟩ := c
    dsimp only at h
    split at h
    · rename_i ds
      split at h
      · cases h
      · rename_i max d hmax
        have hmax' := carries_number (k := k) hrest _ _ _ hmax
        rw [within_past] at hmax'
        have heq : readRange start' (a.within k rest) = _ := readRange_of_comma hmin' hmax'
        rw [heq]
        exact carries_rangeEnd start start' _ _ _ _ _ h
    · rename_i ds
      split at h
      · have heq : readRange start' (a.within k rest) = _ := readRange_of_close hmin'
        rw [heq]
        exact carries_rangeEnd start start' _ _ _ _ _ h
      · cases h
    · cases h
    · cases h

/-- A quantifier is read the same within a text. -/
theorem carries_quantifier (hrest : Closes rest) (c : Char) (cs : List Char) (i : Nat) :
    Carries k rest id (readQuantifier c cs i) (readQuantifier c (cs ++ rest) (i + k)) := by
  unfold readQuantifier
  split
  case h_4 =>
    rw [← within_past]
    exact (carries_range hrest i (i + k) (.past i c cs)).map fun _ => rfl
  all_goals
    rw [← within_past]
    exact carries_ok _ _

end Motif.Pattern
