import Motif.Graph.Lower
import Motif.Proofs.Notation.Print
import Motif.Proofs.Notation.WellFormed

/-!
# Reading what was written

Literals, names, constraints and quantifiers are read back as they were written, wherever in a text
they stand; only the places of expressions are new. What comes after a name has to end it.

* `reads_text`, `reads_regex`: what stands between quotes or slashes.
* `reads_tokenTest`: a test with all its constraints.
* `reads_quantifier`: a quantifier in any notation.
-/

namespace Motif.Pattern

/-! ## Readings -/

/-- Reading succeeds with `a` and goes on with `rest`. -/
def Reads {α : Type} (r : Reading α) (a : α) (rest : List Char) : Prop :=
  ∃ i, r = .ok (a, ⟨rest, i⟩)

theorem Reads.map {α β : Type} {r : Reading α} {a : α} {rest : List Char} (h : Reads r a rest)
    (f : α → β) : Reads (r.map f) (f a) rest := by
  obtain ⟨i, rfl⟩ := h
  exact ⟨i, rfl⟩

/-! ## Literals -/

/-- What stands between quotes is read back. -/
theorem reads_text (start : Nat) (cs rest : List Char) (i : Nat) :
    Reads (readText start (cs.flatMap quotedChar ++ '\'' :: rest) i) cs rest := by
  induction cs generalizing i with
  | nil => exact ⟨_, rfl⟩
  | cons c cs ih =>
    rw [List.flatMap_cons, List.append_assoc]
    unfold quotedChar
    split
    case h_6 h₁ h₂ h₃ h₄ h₅ =>
      rw [List.singleton_append, readText]
      · exact (ih _).map _
      all_goals simp_all
    all_goals exact (ih _).map _

/-- What stands between slashes is read back, if every backslash in it has something to escape. -/
theorem reads_source (start : Nat) {cs : List Char} (h : PairedEscapes cs) (rest : List Char)
    (i : Nat) : Reads (readSource start (cs.flatMap slashedChar ++ '/' :: rest) i) cs rest := by
  fun_induction PairedEscapes cs generalizing i with
  | case1 => exact ⟨_, rfl⟩
  | case2 => exact h.elim
  | case3 e cs ih =>
    obtain ⟨he, h⟩ := h
    have hslashed : slashedChar e = [e] := by
      unfold slashedChar
      split
      · exact absurd rfl he
      · rfl
    rw [List.flatMap_cons, List.flatMap_cons, hslashed]
    show Reads (readSource start ('\\' :: e :: (cs.flatMap slashedChar ++ '/' :: rest)) i) _ _
    rw [readSource]
    · exact (ih h _).map _
    · exact he
  | case4 c cs hlast hpair ih =>
    have hc := ne_backslash hlast hpair
    rw [List.flatMap_cons, List.append_assoc]
    unfold slashedChar
    split
    · exact (ih h _).map _
    · rename_i hne
      rw [List.singleton_append, readSource]
      · exact (ih h _).map _
      all_goals simp_all

/-- Flags are read back up to something that is no letter. -/
theorem reads_flags {flags seen rest : List Char} (hf : ∀ c ∈ flags, c ∈ regexFlags)
    (hn : flags.Nodup) (hs : ∀ c ∈ flags, c ∉ seen)
    (hr : ∀ c ∈ rest.head?, c.isAlpha = false) (i : Nat) :
    Reads (readFlags seen (flags ++ rest) i) flags rest := by
  induction flags generalizing seen i with
  | nil =>
    cases rest with
    | nil => exact ⟨_, rfl⟩
    | cons c rest =>
      rw [List.nil_append, readFlags, if_neg (by simp [hr c rfl])]
      exact ⟨_, rfl⟩
  | cons c flags ih =>
    obtain ⟨hc, hf⟩ := List.forall_mem_cons.mp hf
    obtain ⟨hcs, hs⟩ := List.forall_mem_cons.mp hs
    obtain ⟨hcf, hn⟩ := List.nodup_cons.mp hn
    have halpha : ∀ d ∈ regexFlags, d.isAlpha = true := by simp [regexFlags]
    have hs' : ∀ d ∈ flags, d ∉ c :: seen := by
      intro d hd
      rw [List.mem_cons]
      refine not_or_intro ?_ (hs d hd)
      rintro rfl
      exact hcf hd
    rw [List.cons_append, readFlags, if_pos (halpha c hc), if_pos ⟨hc, hcs⟩]
    exact (ih hf hn hs' _).map _

/-- A regular expression is read back, but for the place where it stands. -/
theorem reads_regex (start : Nat) {r : RegexLiteral} (h : r.WellFormed) {rest : List Char}
    (hr : ∀ c ∈ rest.head?, c.isAlpha = false) (i : Nat) :
    Reads (readRegex start (r.source.toList.flatMap slashedChar ++
      '/' :: (r.flags.toList ++ rest)) i) { r with index := start } rest := by
  obtain ⟨j, hsource⟩ := reads_source start h.paired (r.flags.toList ++ rest) i
  obtain ⟨k, hflags⟩ := reads_flags h.flags_mem h.flags_nodup (fun _ _ => List.not_mem_nil) hr j
  have hlit : (⟨.ofList r.source.toList, .ofList r.flags.toList, start⟩ : RegexLiteral) =
      { r with index := start } := by
    rw [String.ofList_toList, String.ofList_toList]
  rw [readRegex, hsource, ← hlit]
  exact Reads.map ⟨k, hflags⟩ _

/-! ## Names -/

/-- A text is empty or begins with something that ends a name and does not go on a test. -/
def Stops (rest : List Char) : Prop :=
  ∀ c ∈ rest.head?, endsName c = true ∧ c ≠ '=' ∧ c ≠ ','

theorem isAlpha_of_isBlank {c : Char} (h : Text.isBlank c = true) : c.isAlpha = false := by
  rw [Bool.eq_false_iff]
  intro ha
  have hval : c.toNat = c.val.toNat := rfl
  have hletter : (decide ('A'.val ≤ c.val ∧ c.val ≤ 'Z'.val) ||
      (decide ('a'.val ≤ c.val) && decide (c.val ≤ 'z'.val))) = true := ha
  simp [UInt32.le_iff_toNat_le] at hletter
  simp [Text.isBlank, Text.blankRuns] at h
  omega

theorem isAlpha_of_endsName {c : Char} (h : endsName c = true) : c.isAlpha = false := by
  unfold endsName at h
  rw [Bool.or_eq_true] at h
  rcases h with h | h
  · have hall : ∀ d ∈ [',', '=', ']', ')', '(', '[', '?', '*', '+', '\x7b'], d.isAlpha = false := by
      simp
    exact hall c (by simpa using h)
  · exact isAlpha_of_isBlank h

/-- What satisfies `p` is taken up to something that does not. -/
theorem takeWhile_stop {p : Char → Bool} {cs rest : List Char} (hc : ∀ c ∈ cs, p c = true)
    (hr : ∀ c ∈ rest.head?, p c = false) (i : Nat) :
    Cursor.takeWhile p ⟨cs ++ rest, i⟩ = cs ∧
      ∃ j, Cursor.dropWhile p ⟨cs ++ rest, i⟩ = ⟨rest, j⟩ := by
  have hrest : rest.takeWhile p = [] ∧ rest.dropWhile p = rest := by
    cases rest with
    | nil => exact ⟨rfl, rfl⟩
    | cons c rest => simp [hr c rfl]
  constructor
  · show (cs ++ rest).takeWhile p = cs
    rw [List.takeWhile_append_of_pos hc, hrest.1, List.append_nil]
  · refine ⟨_, congrArg (Cursor.mk · _) ?_⟩
    show (cs ++ rest).dropWhile p = rest
    rw [List.dropWhile_append_of_pos hc, hrest.2]

/-- A name is read up to what ends it. -/
theorem takeWhile_name {name rest : List Char} (hname : ∀ c ∈ name, endsName c = false)
    (hr : ∀ c ∈ rest.head?, endsName c = true) (i : Nat) :
    Cursor.takeWhile (!endsName ·) ⟨name ++ rest, i⟩ = name ∧
      ∃ j, Cursor.dropWhile (!endsName ·) ⟨name ++ rest, i⟩ = ⟨rest, j⟩ :=
  takeWhile_stop (fun c hc => by simp [hname c hc]) (fun c hc => by simp [hr c hc]) i

/-! ## Constraints and tests -/

/-- What follows the `=` of a constraint is read back, but for places. -/
theorem reads_expected {v : Expected} (h : v.WellFormed) {cs rest : List Char}
    (hcs : v.written.toList = '=' :: cs) (hr : ∀ c ∈ rest.head?, endsName c = true)
    (name : String) (nameAt i : Nat) :
    ∃ v', v'.rewrite RegexLiteral.unindexed = v.rewrite RegexLiteral.unindexed ∧
      Reads (readExpected name nameAt ⟨cs ++ rest, i⟩) v' rest := by
  cases v with
  | text s =>
    obtain rfl : cs = '\'' :: (s.toList.flatMap quotedChar ++ ['\'']) := by
      simpa [Expected.written] using hcs.symm
    have hread := (reads_text i s.toList rest (i + 1)).map fun s => Expected.text (.ofList s)
    rw [String.ofList_toList] at hread
    refine ⟨.text s, rfl, ?_⟩
    simpa [readExpected] using hread
  | regex r =>
    obtain rfl : cs = '/' :: (r.source.toList.flatMap slashedChar ++ '/' :: r.flags.toList) := by
      simpa [Expected.written] using hcs.symm
    have halpha : ∀ c ∈ rest.head?, c.isAlpha = false := fun c hc => isAlpha_of_endsName (hr c hc)
    refine ⟨.regex { r with index := i }, rfl, ?_⟩
    simpa [readExpected] using (reads_regex i h halpha (i + 1)).map Expected.regex
  | present => cases hcs

theorem readConstraint_of_value {a b : Cursor} {name cs : List Char} {j : Nat} {v : Expected}
    (htake : a.takeWhile (!endsName ·) = name) (hne : name ≠ [])
    (hdrop : a.dropWhile (!endsName ·) = ⟨'=' :: cs, j⟩)
    (hv : readExpected (.ofList name) a.index (.past j '=' cs) = .ok (v, b)) :
    readConstraint a = .ok (⟨.ofList name, v⟩, b) := by
  rw [readConstraint, htake, hdrop, if_neg hne]
  show Reading.map _ (readExpected (.ofList name) a.index (.past j '=' cs)) = _
  rw [hv]
  rfl

theorem readConstraint_of_name {a b : Cursor} {name : List Char}
    (htake : a.takeWhile (!endsName ·) = name) (hne : name ≠ [])
    (hdrop : a.dropWhile (!endsName ·) = b) (hb : ∀ c ∈ b.rest.head?, c ≠ '=') :
    readConstraint a = .ok (⟨.ofList name, .present⟩, b) := by
  rw [readConstraint, htake, hdrop, if_neg hne]
  split
  · rename_i hcs
    exact absurd rfl (hb '=' (by rw [hcs]; rfl))
  · rfl

/-- A constraint is read back, but for places. -/
theorem reads_constraint {c : Constraint} (h : c.WellFormed) {rest : List Char}
    (hr : ∀ d ∈ rest.head?, endsName d = true ∧ d ≠ '=') (i : Nat) :
    ∃ c', c'.rewrite RegexLiteral.unindexed = c.rewrite RegexLiteral.unindexed ∧
      Reads (readConstraint ⟨c.name.toList ++ (c.value.written.toList ++ rest), i⟩) c' rest := by
  obtain ⟨name, value⟩ := c
  have hne : name.toList ≠ [] := h.name_ne
  have hends : ∀ d ∈ (value.written.toList ++ rest).head?, endsName d = true := by
    cases value with
    | text s | regex r =>
      intro d hd
      obtain rfl : d = '=' := by simpa [Expected.written, eq_comm] using hd
      decide
    | present => simpa [Expected.written] using fun d hd => (hr d hd).1
  obtain ⟨htake, j, hdrop⟩ := takeWhile_name h.name hends i
  have hstop : ∀ d ∈ rest.head?, endsName d = true := fun d hd => (hr d hd).1
  by_cases hv : value = .present
  · subst hv
    refine ⟨⟨name, .present⟩, rfl, j, ?_⟩
    have hread := readConstraint_of_name htake hne hdrop fun d hd => (hr d hd).2
    rwa [String.ofList_toList] at hread
  · have hcs : ∃ cs, value.written.toList = '=' :: cs := by
      cases value with
      | text s | regex r => exact ⟨_, by simp [Expected.written]; rfl⟩
      | present => exact absurd rfl hv
    obtain ⟨cs, hcs⟩ := hcs
    rw [hcs] at htake hdrop ⊢
    obtain ⟨v', hv', k, hread⟩ := reads_expected h.value hcs hstop name i (j + 1)
    refine ⟨⟨name, v'⟩, congrArg (Constraint.mk name) hv', k, ?_⟩
    rw [← String.ofList_toList (s := name)] at hread
    have hread := readConstraint_of_value htake hne hdrop hread
    rwa [String.ofList_toList] at hread

theorem readConstraints_cons {cs : List Char} {i : Nat} {c : Constraint} {a : Cursor}
    (h : readConstraint (.past i ',' cs) = .ok (c, a)) :
    readConstraints ⟨',' :: cs, i⟩ = (readConstraints a).map (c :: ·) := by
  rw [readConstraints]
  split
  · rename_i ds hds
    obtain ⟨-, rfl⟩ := List.cons_eq_cons.mp hds
    split
    · rename_i hc
      cases hc.symm.trans h
    · rename_i hc
      obtain ⟨rfl, rfl⟩ := Prod.mk.inj (Except.ok.inj (hc.symm.trans h))
      rfl
  · rename_i hne
    exact absurd rfl (hne cs)

theorem readConstraints_of_ne {rest : List Char} (h : ∀ c ∈ rest.head?, c ≠ ',') (i : Nat) :
    readConstraints ⟨rest, i⟩ = .ok ([], ⟨rest, i⟩) := by
  rw [readConstraints]
  split
  · rename_i cs hcs
    obtain rfl : rest = ',' :: cs := hcs
    exact absurd rfl (h ',' rfl)
  · rfl

/-- A name ends before further constraints and before what ends a test. -/
theorem constraints_stop (cs : List Constraint) {rest : List Char} (hr : Stops rest) :
    ∀ d ∈ (cs.flatMap (·.text.toList) ++ rest).head?, endsName d = true ∧ d ≠ '=' := by
  cases cs with
  | nil => exact fun d hd => ⟨(hr d hd).1, (hr d hd).2.1⟩
  | cons c cs =>
    intro d hd
    obtain rfl : d = ',' := by simpa [Constraint.text, eq_comm] using hd
    decide

/-- Constraints are read back, but for places. -/
theorem reads_constraints {cs : List Constraint} (h : ∀ c ∈ cs, c.WellFormed) {rest : List Char}
    (hr : Stops rest) (i : Nat) :
    ∃ cs', cs'.map (·.rewrite RegexLiteral.unindexed) = cs.map (·.rewrite RegexLiteral.unindexed) ∧
      Reads (readConstraints ⟨cs.flatMap (·.text.toList) ++ rest, i⟩) cs' rest := by
  induction cs generalizing i with
  | nil =>
    refine ⟨[], rfl, i, ?_⟩
    exact readConstraints_of_ne (fun c hc => (hr c hc).2.2) i
  | cons c cs ih =>
    obtain ⟨hc, hcs⟩ := List.forall_mem_cons.mp h
    obtain ⟨c', hc', j, hread⟩ := reads_constraint hc (constraints_stop cs hr) (i + 1)
    obtain ⟨cs', hcs', hreads⟩ := ih hcs j
    refine ⟨c' :: cs', by rw [List.map_cons, List.map_cons, hc', hcs'], ?_⟩
    have htext : (c :: cs).flatMap (·.text.toList) ++ rest =
        ',' :: (c.name.toList ++ (c.value.written.toList ++
          (cs.flatMap (·.text.toList) ++ rest))) := by
      simp [Constraint.text]
    rw [htext, readConstraints_cons hread]
    exact hreads.map _

theorem kindNamed?_kindText (kind : Option Token.Kind) :
    kindNamed? (kindText kind) = some kind := by
  rcases kind with _ | kind
  · rfl
  · cases kind <;> rfl

theorem endsName_kindText (kind : Option Token.Kind) :
    ∀ c ∈ (kindText kind).toList, endsName c = false := by
  have hall : (kindText kind).toList.all (!endsName ·) = true := by
    rcases kind with _ | kind
    · decide
    · cases kind <;> decide
  simpa using hall

/-- **A test is read back**, but for places, before anything that ends it. -/
theorem reads_tokenTest {t : TokenTest} (h : t.WellFormed) {rest : List Char} (hr : Stops rest)
    (i : Nat) :
    ∃ t', t'.rewrite RegexLiteral.unindexed = t.rewrite RegexLiteral.unindexed ∧
      Reads (readTokenTest ⟨t.text.toList ++ rest, i⟩) t' rest := by
  obtain ⟨kind, cs⟩ := t
  have hends := constraints_stop cs hr
  have htext : (TokenTest.text ⟨kind, cs⟩).toList ++ rest =
      (kindText kind).toList ++ (cs.flatMap (·.text.toList) ++ rest) := by
    simp [TokenTest.text, List.flatMap_map]
  obtain ⟨htake, j, hdrop⟩ :=
    takeWhile_name (endsName_kindText kind) (fun d hd => (hends d hd).1) i
  obtain ⟨cs', hcs', hread⟩ := reads_constraints h hr j
  refine ⟨⟨kind, cs'⟩, congrArg (TokenTest.mk kind) hcs', ?_⟩
  rw [htext, readTokenTest]
  simp only [htake, hdrop, String.ofList_toList, kindNamed?_kindText]
  split
  · rename_i ds hds
    exact absurd rfl (hends '=' (by rw [hds]; rfl)).2
  · exact hread.map _

/-! ## Quantifiers -/

theorem toList_decimal (n : UInt32) : (Span.decimal n).toList = Nat.toDigits 10 n.toNat :=
  Nat.toList_repr

/-- A number is read back before anything that is no digit. -/
theorem reads_number (n : UInt32) {rest : List Char} (hr : ∀ c ∈ rest.head?, c.isDigit = false)
    (i : Nat) : Reads (readNumber ⟨(Span.decimal n).toList ++ rest, i⟩) (some n) rest := by
  have hdigit : ∀ c ∈ Nat.toDigits 10 n.toNat, c.isDigit = true :=
    fun c hc => Nat.isDigit_of_mem_toDigits (by decide) (by decide) hc
  obtain ⟨htake, j, hdrop⟩ := takeWhile_stop hdigit hr i
  have hvalue : decimalValue (Nat.toDigits 10 n.toNat) = n.toNat :=
    Nat.ofDigitChars_eq_foldl.symm.trans Nat.ofDigitChars_ten_toDigits
  have hlt : n.toNat < UInt32.size := n.toNat_lt
  rw [toList_decimal, readNumber]
  simp only [htake, hdrop, if_neg Nat.toDigits_ne_nil, hvalue, if_pos hlt, UInt32.ofNat_toNat]
  exact ⟨j, rfl⟩

/-- Where there is no digit, no number is read. -/
theorem reads_noNumber {rest : List Char} (hr : ∀ c ∈ rest.head?, c.isDigit = false) (i : Nat) :
    Reads (readNumber ⟨rest, i⟩) none rest := by
  obtain ⟨htake, j, hdrop⟩ := takeWhile_stop (List.forall_mem_nil _) hr i
  rw [List.nil_append] at htake hdrop
  rw [readNumber]
  simp only [htake, hdrop]
  exact ⟨j, rfl⟩

theorem checkedSpan_eq {s : Span} (h : s.WellFormed) (start : Nat) :
    checkedSpan start s.min s.max = .ok s := by
  have hle : s.max.any (· < s.min) = false := by
    rw [Option.any_eq_false]
    intro m hm
    simpa using h.min_le m hm
  rw [checkedSpan, if_neg h.max_ne, hle]
  rfl

theorem reads_rangeEnd {s : Span} (h : s.WellFormed) (start : Nat) (rest : List Char) (i : Nat) :
    Reads (readRangeEnd start s.min s.max ⟨'\x7d' :: rest, i⟩) s rest := by
  refine ⟨i + 1, ?_⟩
  rw [readRangeEnd]
  simp only [checkedSpan_eq h]
  rfl

theorem readRange_of_comma {start j : Nat} {a b : Cursor} {cs : List Char}
    {min max : Option UInt32} (hmin : readNumber a = .ok (min, ⟨',' :: cs, j⟩))
    (hmax : readNumber (.past j ',' cs) = .ok (max, b)) :
    readRange start a = readRangeEnd start (min.getD 0) max b := by
  rw [readRange, hmin]
  simp only [hmax]

theorem readRange_of_close {start j : Nat} {a : Cursor} {cs : List Char} {n : UInt32}
    (h : readNumber a = .ok (some n, ⟨'\x7d' :: cs, j⟩)) :
    readRange start a = readRangeEnd start n (some n) ⟨'\x7d' :: cs, j⟩ := by
  rw [readRange, h]
  rfl

/-- A range is read back after its opening brace. -/
theorem reads_range {s : Span} (h : s.WellFormed) (start : Nat) (rest : List Char) (i : Nat) :
    ∃ cs, s.inBraces.toList = '\x7b' :: cs ∧ Reads (readRange start ⟨cs ++ rest, i⟩) s rest := by
  have hclose : ∀ c ∈ ('\x7d' :: rest).head?, c.isDigit = false := by simp
  have hcomma (cs : List Char) : ∀ c ∈ (',' :: cs).head?, c.isDigit = false := by simp
  obtain ⟨min, max⟩ := s
  cases max with
  | none =>
    refine ⟨(Span.decimal min).toList ++ [',', '\x7d'], by simp [Span.inBraces], ?_⟩
    obtain ⟨j, hmin⟩ := reads_number min (hcomma ('\x7d' :: rest)) i
    obtain ⟨k, hmax⟩ := reads_noNumber hclose (j + 1)
    rw [List.append_assoc]
    show Reads (readRange start ⟨(Span.decimal min).toList ++ ',' :: '\x7d' :: rest, i⟩) _ _
    rw [readRange_of_comma hmin hmax]
    exact reads_rangeEnd h start rest k
  | some max =>
    by_cases heq : min = max
    · subst heq
      refine ⟨(Span.decimal min).toList ++ ['\x7d'], by simp [Span.inBraces], ?_⟩
      obtain ⟨j, hmin⟩ := reads_number min hclose i
      rw [List.append_assoc]
      show Reads (readRange start ⟨(Span.decimal min).toList ++ '\x7d' :: rest, i⟩) _ _
      rw [readRange_of_close hmin]
      exact reads_rangeEnd h start rest j
    · by_cases hzero : min = 0
      · subst hzero
        refine ⟨',' :: (Span.decimal max).toList ++ ['\x7d'], by simp [Span.inBraces, heq], ?_⟩
        obtain ⟨j, hmin⟩ := reads_noNumber (hcomma ((Span.decimal max).toList ++ '\x7d' :: rest)) i
        obtain ⟨k, hmax⟩ := reads_number max hclose (j + 1)
        rw [List.append_assoc]
        show Reads (readRange start ⟨',' :: ((Span.decimal max).toList ++ '\x7d' :: rest), i⟩) _ _
        rw [readRange_of_comma hmin hmax]
        exact reads_rangeEnd h start rest k
      · refine ⟨(Span.decimal min).toList ++ ',' :: (Span.decimal max).toList ++ ['\x7d'],
          by simp [Span.inBraces, heq, hzero], ?_⟩
        obtain ⟨j, hmin⟩ := reads_number min
          (hcomma ((Span.decimal max).toList ++ '\x7d' :: rest)) i
        obtain ⟨k, hmax⟩ := reads_number max hclose (j + 1)
        rw [List.append_assoc, List.append_assoc]
        show Reads (readRange start ⟨(Span.decimal min).toList ++
          ',' :: ((Span.decimal max).toList ++ '\x7d' :: rest), i⟩) _ _
        rw [readRange_of_comma hmin hmax]
        exact reads_rangeEnd h start rest k

/-- **A quantifier is read back** in the notation in which it was written. -/
theorem reads_quantifier {q : Quantifier} (h : q.span.WellFormed) (rest : List Char) (i : Nat) :
    ∃ c cs, q.text.toList = c :: cs ∧ isQuantifier c = true ∧
      Reads (readQuantifier c (cs ++ rest) i) q rest := by
  cases q with
  | optional => exact ⟨'?', [], rfl, by decide, i + 1, rfl⟩
  | star => exact ⟨'*', [], rfl, by decide, i + 1, rfl⟩
  | plus => exact ⟨'+', [], rfl, by decide, i + 1, rfl⟩
  | range s =>
    obtain ⟨cs, hcs, hread⟩ := reads_range (s := s) h i rest (i + 1)
    exact ⟨'\x7b', cs, hcs, by decide, hread.map Quantifier.range⟩

end Motif.Pattern
