import Mathlib
import Motif.Match.Scan
import Motif.Proofs.Match.Traces
import Motif.Regex.Standard

/-!
# Sentences one by one (specification §8, E5)

A scan runs one matcher over all sentences and lets it begin anew before each. What it finds in a
sentence is what a fresh matcher finds there by itself (`found`), whatever came before. White space
that a pattern passes over can be taken out of the sentences: the same tokens complete a match, at
the places that they have in what is left (`rank`).

* `found_nil`, `found_cons`: what is found, token by token.
* `scan_eq_flatMap`: a scan by its sentences.
* `pairwise_scan`: locations are found in order.
* `found_visible`: sentences without white space.
* **`scan_by_sentence`**: all of these.
-/

namespace Motif

/-! ## Places in a sentence -/

/-- The places at which a match may be complete: the tokens of a sentence and, after them, its
end. -/
def matchPlaces (s : List Token) : List (Option Nat) :=
  (List.range s.length).map some ++ [none]

theorem matchPlaces_cons (t : Token) (s : List Token) :
    matchPlaces (t :: s) = some 0 :: (matchPlaces s).map (Option.map (· + 1)) := by
  simp [matchPlaces, List.range_succ_eq_map]

/-- One place comes before another: a token before those after it, and before the end. -/
def PlaceBefore (a b : Option Nat) : Prop :=
  ∃ i ∈ a, ∀ j ∈ b, i < j

theorem PlaceBefore.map {f : Nat → Nat} (hf : ∀ i j, i < j → f i < f j) {a b : Option Nat}
    (h : PlaceBefore a b) : PlaceBefore (a.map f) (b.map f) := by
  obtain ⟨i, hi, hb⟩ := h
  refine ⟨f i, Option.mem_map_of_mem f hi, fun j hj => ?_⟩
  obtain ⟨k, hk, rfl⟩ := Option.mem_map.mp hj
  exact hf i k (hb k hk)

/-- One location comes before another: it is in an earlier sentence, or at an earlier place. -/
def Location.Before (a b : Location) : Prop :=
  a.sentence < b.sentence ∨ a.sentence = b.sentence ∧ PlaceBefore a.token b.token

/-! ## Sentences without white space -/

/-- Whether a token is something else than white space. -/
def Token.isVisible (t : Token) : Bool :=
  !t.kind.isWhitespace

/-- The place of a token among those that are no white space. -/
def rank (s : List Token) (j : Nat) : Nat :=
  (s.take j).countP (·.isVisible)

theorem rank_cons (t : Token) (s : List Token) (j : Nat) :
    rank (t :: s) (j + 1) = rank s j + if t.isVisible then 1 else 0 := by
  rw [rank, List.take_succ_cons, List.countP_cons, rank]

theorem map_rank_cons (t : Token) (s : List Token) (x : Option Nat) :
    (x.map (· + 1)).map (rank (t :: s)) =
      (x.map (rank s)).map (· + if t.isVisible then 1 else 0) := by
  cases x with
  | none => rfl
  | some j => exact congrArg some (rank_cons t s j)

/-- The order of tokens stays. -/
theorem rank_lt_rank {s : List Token} {i j : Nat} {t : Token} (h : s[i]? = some t)
    (ht : t.isVisible = true) (hij : i < j) : rank s i < rank s j := by
  have hi : i < s.length := (List.getElem?_eq_some_iff.mp h).1
  have hprefix : s.take (i + 1) <+: s.take j := List.take_prefix_take_left hij
  calc
    rank s i < rank s (i + 1) := by
      rw [rank, rank, List.take_add_one, h, Option.toList_some, List.countP_append,
        List.countP_singleton, if_pos ht]
      exact Nat.lt_succ_self _
    _ ≤ rank s j := hprefix.sublist.countP_le

/-- A token that is no white space stands at its new place when white space is taken out. -/
theorem getElem?_rank {s : List Token} {j : Nat} {t : Token} (h : s[j]? = some t)
    (ht : t.isVisible = true) : (s.filter (·.isVisible))[rank s j]? = some t := by
  induction s generalizing j with
  | nil => cases h
  | cons u s ih =>
    cases j with
    | zero =>
      obtain rfl : u = t := Option.some.inj h
      rw [List.filter_cons_of_pos ht]
      rfl
    | succ j =>
      rw [rank_cons]
      by_cases hu : u.isVisible = true
      · rw [List.filter_cons_of_pos hu, if_pos hu, List.getElem?_cons_succ]
        exact ih h
      · rw [List.filter_cons_of_neg hu, if_neg hu]
        exact ih h

/-- The location of the same token, or of the same end, when white space is taken out of the
sentences. -/
def Location.renumber (ss : List (List Token)) (l : Location) : Location :=
  { l with token := l.token.map (rank (ss.getD l.sentence [])) }

/-! ## What is found -/

section

variable [RegexEngine]

namespace Matcher

variable {m n : Matcher}

/-- The places at which a match is found in a sentence, after which the matcher is asked whether the
stream may end. -/
def found (m : Matcher) (s : List Token) : List (Option Nat) :=
  (((matchPlaces s).zip (m.answers (s.map .add ++ [.finish]))).filter (·.2)).map (·.1)

theorem found_nil (m : Matcher) : m.found [] = if m.finish.1 then [none] else [] := by
  show (([(none, m.finish.1)] : List (Option Nat × Bool)).filter (·.2)).map (·.1) = _
  cases m.finish.1 <;> rfl

/-- What is found at a token, and in the rest of the sentence. -/
theorem found_cons (m : Matcher) (t : Token) (s : List Token) :
    m.found (t :: s) =
      (if (m.add t).1 then [some 0] else []) ++
        ((m.add t).2.found s).map (Option.map (· + 1)) := by
  have hrest : (((matchPlaces s).map (Option.map (· + 1))).zip
      ((m.add t).2.answers (s.map .add ++ [.finish]))).filter (·.2) =
        ((((matchPlaces s).zip ((m.add t).2.answers (s.map .add ++ [.finish])))).filter (·.2)).map
          (Prod.map (Option.map (· + 1)) id) := by
    rw [List.zip_map_left, List.filter_map]
    rfl
  rw [found, matchPlaces_cons, List.map_cons, List.cons_append, answers, call, List.zip_cons_cons,
    List.filter_cons, hrest, found]
  cases (m.add t).1 <;> simp [Function.comp_def]

/-! ## Scans -/

theorem scanFrom_eq (m : Matcher) (sentence i : Nat) (s : List Token) :
    m.scanFrom sentence i s =
      ((m.found s).map fun x => ⟨sentence, x.map (i + ·)⟩,
        m.after (s.map .add ++ [.finish])) := by
  induction s generalizing m i with
  | nil =>
    rw [scanFrom, found_nil]
    cases h : m.finish.1 <;> simp [h, call]
  | cons t s ih =>
    have hsucc (x : Option Nat) : (x.map (· + 1)).map (i + ·) = x.map (i + 1 + ·) := by
      cases x with
      | none => rfl
      | some k => exact congrArg some (Nat.add_right_comm i k 1)
    simp only [scanFrom, ih, found_cons, List.map_append, List.map_map, Function.comp_def, hsucc]
    cases (m.add t).1 <;> rfl

/-- **A scan of sentences** that begins with any matcher for a pattern finds in each of them what a
fresh matcher finds. -/
theorem scanAll_eq {p : CompiledPattern} (h : m.reset = p.matcher) (i : Nat)
    (ss : List (List Token)) :
    m.scanAll i ss =
      (ss.zipIdx i).flatMap fun x => (p.matcher.found x.1).map (Location.mk x.2) := by
  induction ss generalizing m i with
  | nil => rfl
  | cons s ss ih =>
    have hzero (x : Option Nat) : x.map (0 + ·) = x := by
      cases x with
      | none => rfl
      | some k => exact congrArg some (Nat.zero_add k)
    have hreset : (p.matcher.after (s.map .add ++ [.finish])).reset = p.matcher := p.reset_after _
    simp only [scanAll, h, scanFrom_eq, hzero, ih hreset, List.zipIdx_cons, List.flatMap_cons]

/-! ## The order of locations -/

theorem pairwise_found (m : Matcher) (s : List Token) : (m.found s).Pairwise PlaceBefore := by
  induction s generalizing m with
  | nil =>
    rw [found_nil]
    split <;> simp
  | cons t s ih =>
    have hrest : (((m.add t).2.found s).map (Option.map (· + 1))).Pairwise PlaceBefore :=
      List.pairwise_map.mpr ((ih _).imp (PlaceBefore.map fun _ _ h => Nat.succ_lt_succ h))
    rw [found_cons]
    split
    · refine List.pairwise_cons.mpr ⟨fun x hx => ⟨0, rfl, fun j hj => ?_⟩, hrest⟩
      obtain ⟨y, -, rfl⟩ := List.mem_map.mp hx
      obtain ⟨k, -, rfl⟩ := Option.mem_map.mp hj
      exact Nat.succ_pos k
    · exact hrest

/-- **Without the white space** that a matcher passes over the same is found in a sentence, at the
places that tokens have in what is left. -/
theorem found_visible (hw : m.pattern.options.skipsWhitespace = true) (h : m.Resumes n)
    (s : List Token) :
    n.found (s.filter (·.isVisible)) = (m.found s).map (Option.map (rank s)) := by
  -- By the tokens of the whole sentence: at white space only the first matcher moves.
  induction s generalizing m n with
  | nil =>
    have hfinish : n.finish.1 = m.finish.1 := (congrArg Outcome.answer (h.call .finish).1).symm
    rw [List.filter_nil, found_nil, found_nil, hfinish]
    cases m.finish.1 <;> rfl
  | cons t s ih =>
    have hw' : (m.add t).2.pattern.options.skipsWhitespace = true := by
      rw [show (m.add t).2.pattern = m.pattern from m.call_pattern (.add t), hw]
    cases ht : t.isVisible with
    | true =>
      obtain ⟨houtcome, hcall⟩ := h.call (.add t)
      have hadd : (n.add t).1 = (m.add t).1 := (congrArg Outcome.answer houtcome).symm
      have hrest : (n.add t).2.found (s.filter (·.isVisible)) =
          ((m.add t).2.found s).map (Option.map (rank s)) := ih hw' hcall
      rw [List.filter_cons_of_pos ht, found_cons, found_cons, hrest, hadd, List.map_append,
        List.map_map, List.map_map]
      congr 1
      · cases (m.add t).1 <;> rfl
      · refine List.map_congr_left fun x _ => ?_
        show (x.map (rank s)).map (· + 1) = (x.map (· + 1)).map (rank (t :: s))
        rw [map_rank_cons, ht]
        rfl
    | false =>
      have hskips : m.skips t = true := by
        rw [skips, hw, Bool.true_and]
        simpa [Token.isVisible] using ht
      have hadd : (m.add t).2.Resumes n := (resumes_of_probes (c := .add t) hskips).trans h
      rw [List.filter_cons_of_neg (by simp [ht]), found_cons, ih hw' hadd,
        congrArg Prod.fst (add_of_skips hskips), if_neg Bool.false_ne_true, List.nil_append,
        List.map_map]
      refine List.map_congr_left fun x _ => ?_
      show x.map (rank s) = (x.map (· + 1)).map (rank (t :: s))
      rw [map_rank_cons, ht]
      exact Option.map_id'.symm

/-- A token at which a match is found is one of the sentence that is not passed over. -/
theorem exists_of_mem_found {s : List Token} {j : Nat} (h : some j ∈ m.found s) :
    ∃ t, s[j]? = some t ∧ m.skips t = false := by
  induction s generalizing m j with
  | nil =>
    rw [found_nil] at h
    split at h <;> simp at h
  | cons t s ih =>
    rw [found_cons] at h
    rcases List.mem_append.mp h with h | h
    · split at h
      · rename_i hadd
        obtain rfl : j = 0 := by simpa using h
        exact ⟨t, rfl, (add_of_matched hadd).1⟩
      · cases h
    · obtain ⟨x, hx, hj⟩ := List.mem_map.mp h
      obtain ⟨k, rfl, rfl⟩ := Option.map_eq_some_iff.mp hj
      obtain ⟨u, hu, hskips⟩ := ih hx
      refine ⟨u, hu, ?_⟩
      rwa [skips, show (m.add t).2.pattern = m.pattern from m.call_pattern (.add t)] at hskips

end Matcher

namespace CompiledPattern

/-- **A scan by its sentences**: in each it finds what a fresh matcher finds. -/
theorem scan_eq_flatMap (p : CompiledPattern) (ss : List (List Token)) :
    p.scan ss = ss.zipIdx.flatMap fun x => (p.matcher.found x.1).map (Location.mk x.2) :=
  Matcher.scanAll_eq (p.reset_after []) 0 ss

/-- **Locations are found in order.** -/
theorem pairwise_scan (p : CompiledPattern) (ss : List (List Token)) :
    (p.scan ss).Pairwise Location.Before := by
  have hsentences : ss.zipIdx.Pairwise fun x y => x.2 < y.2 := by
    rw [← List.pairwise_map, List.zipIdx_map_snd]
    exact List.pairwise_lt_range'
  rw [scan_eq_flatMap]
  refine List.pairwise_flatMap.mpr ⟨fun x _ => ?_, hsentences.imp fun h a ha b hb => ?_⟩
  · exact List.pairwise_map.mpr ((p.matcher.pairwise_found x.1).imp fun h => .inr ⟨rfl, h⟩)
  · obtain ⟨_, -, rfl⟩ := List.mem_map.mp ha
    obtain ⟨_, -, rfl⟩ := List.mem_map.mp hb
    exact .inl h

/-- **White space that is passed over** makes no difference but to the places of tokens. -/
theorem scan_visible {p : CompiledPattern} (h : p.options.skipsWhitespace = true)
    (ss : List (List Token)) :
    p.scan (ss.map (·.filter (·.isVisible))) = (p.scan ss).map (Location.renumber ss) := by
  rw [scan_eq_flatMap, scan_eq_flatMap, List.map_flatMap, List.zipIdx_map, List.flatMap_map]
  refine List.flatMap_congr fun x hx => ?_
  have hsentence : ss.getD x.2 [] = x.1 := by
    rw [List.getD_eq_getElem?_getD, List.mk_mem_zipIdx_iff_getElem?.mp hx, Option.getD_some]
  have hfound : p.matcher.found (x.1.filter (·.isVisible)) =
      (p.matcher.found x.1).map (Option.map (rank x.1)) :=
    Matcher.found_visible h (.refl _) x.1
  show (p.matcher.found (x.1.filter (·.isVisible))).map (Location.mk x.2) = _
  rw [hfound, List.map_map, List.map_map]
  refine List.map_congr_left fun y _ => ?_
  show Location.mk x.2 (y.map (rank x.1)) = ⟨x.2, y.map (rank (ss.getD x.2 []))⟩
  rw [hsentence]

/-- A token that completes a match stands in its sentence, and with the new number in what is left
of it without white space. -/
theorem token_of_mem_scan {p : CompiledPattern} (h : p.options.skipsWhitespace = true)
    {ss : List (List Token)} {l : Location} (hl : l ∈ p.scan ss) {j : Nat} (hj : j ∈ l.token) :
    ∃ s t, ss[l.sentence]? = some s ∧ s[j]? = some t ∧
      (s.filter (·.isVisible))[rank s j]? = some t := by
  rw [scan_eq_flatMap] at hl
  obtain ⟨x, hx, hl⟩ := List.mem_flatMap.mp hl
  obtain ⟨y, hy, rfl⟩ := List.mem_map.mp hl
  obtain rfl : y = some j := hj
  obtain ⟨t, ht, hskips⟩ := Matcher.exists_of_mem_found hy
  have hvisible : t.isVisible = true := by
    have hwhite : t.kind.isWhitespace = false := by
      rw [← hskips, Matcher.skips, show p.matcher.pattern = p from rfl, h, Bool.true_and]
    rw [Token.isVisible, hwhite]
    rfl
  exact ⟨x.1, t, List.mk_mem_zipIdx_iff_getElem?.mp hx, ht, getElem?_rank ht hvisible⟩

/-- **A scan is made of its sentences.** Each of them is scanned as if it stood alone, by a matcher
before its first token. Locations are found in order: by sentences, within a sentence by tokens, and
the end of a sentence after all of its tokens and at most once. If the pattern passes over white
space, the same is found in sentences without any, with tokens renumbered: each location is that of
the token which has the new number among the tokens that are left, and these keep their order. -/
theorem scan_by_sentence (p : CompiledPattern) (ss : List (List Token)) :
    p.scan ss = ss.zipIdx.flatMap (fun x => (p.matcher.found x.1).map (Location.mk x.2)) ∧
    (p.scan ss).Pairwise Location.Before ∧
    (p.options.skipsWhitespace = true →
      p.scan (ss.map (·.filter (·.isVisible))) = (p.scan ss).map (Location.renumber ss) ∧
      ∀ l ∈ p.scan ss, ∀ j ∈ l.token, ∃ s t, ss[l.sentence]? = some s ∧ s[j]? = some t ∧
        (s.filter (·.isVisible))[rank s j]? = some t) ∧
    ∀ s ∈ ss, ∀ (i j : Nat) (t : Token), s[i]? = some t → t.isVisible = true → i < j →
      rank s i < rank s j :=
  ⟨p.scan_eq_flatMap ss, p.pairwise_scan ss, fun h => ⟨scan_visible h ss, fun _ hl _ hj =>
    token_of_mem_scan h hl hj⟩, fun _ _ _ _ _ => rank_lt_rank⟩

end CompiledPattern

end

/-- Sentences for `[(^ word) (symbol $)]` with white space before, between and after the tokens that
count. -/
theorem CompiledPattern.scan_by_sentence_blanks :
    ∃ p, ofElements [.alternation [.group [.anchor .start, .token ⟨some .word, []⟩],
        .group [.token ⟨some .symbol, []⟩, .anchor .finish]]] "[(^ word) (symbol $)]" {} = .ok p ∧
      let word : Token := { kind := .word }
      let blank : Token := { kind := .whitespace, text := " " }
      let symbol : Token := { kind := .symbol }
      let ss := [[blank, word, blank, symbol, blank], [symbol, blank, word], [blank, word]]
      p.scan ss = [⟨0, some 1⟩, ⟨0, none⟩, ⟨2, some 1⟩] ∧
      p.scan [[word, symbol], [symbol, word], [word]] = [⟨0, some 0⟩, ⟨0, none⟩, ⟨2, some 0⟩] := by
  refine ⟨_, rfl, ?scan, (((scan_by_sentence _ _).2.2.1 rfl).1.trans (congrArg _ ?scan)).trans ?_⟩
  case scan => cbv
  decide

end Motif
