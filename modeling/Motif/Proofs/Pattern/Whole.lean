import Motif.Pattern.Atom
import Motif.Proofs.Regex.Closing.Parse
import Motif.Proofs.Regex.Lawful

/-!
# Regular expressions for whole values (specification E3)

The source of a regular expression is put in a group between the anchors of the text. Only a source
that is read within the group as it is read alone is then matched with the whole value. This fails
of two kinds of sources that are compiled all the same:

* One that ends the group itself and begins another, such as `a)|(?:b`. Alone it is not well formed,
  and each anchor holds for one branch only.
* One with the flag `x` that leaves the free form, such as `(?-x)a`. The line feed before the end of
  the group is then matched too. If the source ends with a backslash, the line feed is escaped.

Where reading the source alone halts (`readAlone`) tells these sources apart. Of the engine it is
asked that it builds what is well formed and searches for what is matched (`LawfulRegexEngine`),
with whatever tables of properties.

Out of scope: which of the well-formed sources an engine refuses.

* **`ValueTest.accepts_compile_regex`**: which compiled sources are well formed alone, and what is
  matched by a test of those that are.
-/

/-! ## Between the anchors -/

namespace Motif.Regex

/-- The group between the anchors. -/
def anchorGroup (m : Modes) : OpenGroup :=
  ⟨false, m, [], [.look .textStart]⟩

theorem content_closed (s : ParseState) (m : Modes) :
    (s.closed (anchorGroup m)).content =
      concat [look .textStart, group s.content false, look .textEnd] :=
  rfl

section

variable [Text.PropertyTables]

theorem parseFrom_opening (m : Modes) (cs : List Char) :
    parseFrom { modes := m } (['\\', 'A', '(', '?', ':'] ++ cs) =
      parseFrom (ParseState.within { modes := m } (anchorGroup m)) cs := by
  have hstart : parseStep { modes := m } ('\\' :: 'A' :: '(' :: '?' :: ':' :: cs) =
      some (ParseState.push { modes := m } (.look .textStart), '(' :: '?' :: ':' :: cs) := by
    simp only [parseStep]
    rfl
  have hmodes : readModes m [] true false (':' :: cs) = some (m, ':', cs) := by
    rw [readModes, if_pos (.inl rfl), if_neg (by simp)]
  have hgroup : parseStep (ParseState.push { modes := m } (.look .textStart))
      ('(' :: '?' :: ':' :: cs) =
        some (ParseState.within { modes := m } (anchorGroup m), cs) := by
    rw [parseStep, stepGroup_eq, skipSpace_of_solid (by decide) (by decide), List.head?_cons,
      if_pos rfl, List.tail_cons, stepSpecial, if_neg (by simp), if_neg (by simp),
      if_neg (by simp), stepModes]
    simp only [ParseState.push, hmodes]
    rfl
  exact (parseFrom_step (by decide) (by decide) hstart).trans
    (parseFrom_step (by decide) (by decide) hgroup)

end

end Motif.Regex

namespace Motif.Pattern

open Regex

theorem before_anchored (source flags : String) :
    ∃ cs, (anchored source flags).toList = ['\\', 'A', '(', '?', ':'] ++ cs ∧
      Before (decide ('x' ∈ flags.toList)) source.toList cs := by
  refine ⟨source.toList ++ ((if 'x' ∈ flags.toList then ['\n'] else []) ++ [')', '\\', 'z']), ?_,
    _, ?_, rfl⟩
  · split_ifs with hx <;> simp [anchored, hx]
  · split_ifs with hx
    · exact .lineClose (decide_eq_true hx)
    · exact .close

/-! ## Compiled tests -/

section

variable [RegexEngine]

theorem ValueTest.compile_regex {l : RegexLiteral} {w : RegexEngine.Compiled}
    (h : wholeRegex? l.source l.flags = some w) :
    ValueTest.compile (.regex l) = .ok (.regex ⟨l.source, l.flags, w, h⟩) := by
  have hcompile : ValueRegex.compile? l.source l.flags = some ⟨l.source, l.flags, w, h⟩ := by
    unfold ValueRegex.compile?
    split
    · simp_all
    · rename_i r hr
      obtain rfl := Option.some.inj (h.symm.trans hr)
      rfl
  rw [ValueTest.compile, hcompile]

theorem ValueTest.exists_of_compile_regex {l : RegexLiteral} {v : ValueTest}
    (h : ValueTest.compile (.regex l) = .ok v) :
    ∃ w, wholeRegex? l.source l.flags = some w ∧
      ∀ text : String, v.accepts text = RegexEngine.isMatch w text := by
  cases hw : wholeRegex? l.source l.flags with
  | none =>
    have hcompile : ValueRegex.compile? l.source l.flags = none := by
      unfold ValueRegex.compile?
      split
      · rfl
      · simp_all
    rw [ValueTest.compile, hcompile] at h
    cases h
  | some w =>
    obtain rfl := Except.ok.inj ((ValueTest.compile_regex hw).symm.trans h)
    exact ⟨w, rfl, fun _ => rfl⟩

end

/-! ## Sources read alone -/

/-- The modes under which a source with flags is read. -/
def regexModes (flags : String) : Regex.Modes :=
  { toRegexOptions := regexOptions flags }

section

variable [Text.PropertyTables]

/-- Where reading a source alone comes to. -/
def readAlone (source flags : String) : Regex.ParseState × List Char :=
  halt { modes := regexModes flags } source.toList

variable {source flags : String}

theorem parse?_of_readAlone (hend : (readAlone source flags).2 = [])
    (hclosed : (readAlone source flags).1.groups = [])
    (hdepth : (readAlone source flags).1.content.depth ≤ Regex.maxDepth) :
    Regex.parse? (regexModes flags) source.toList = some (readAlone source flags).1.content := by
  rw [Regex.parse?, parseFrom_eq_halt]
  unfold readAlone at *
  rw [if_pos ⟨hend, hclosed⟩, Option.filter_some, if_pos (by simpa using hdepth)]

theorem readAlone_of_parse? {r : Regex}
    (h : Regex.parse? (regexModes flags) source.toList = some r) :
    (readAlone source flags).2 = [] ∧ r = (readAlone source flags).1.content := by
  obtain ⟨h, -⟩ := Option.filter_eq_some_iff.mp h
  rw [parseFrom_eq_halt] at h
  split_ifs at h with hend
  exact ⟨hend.1, (Option.some.inj h).symm⟩

variable [RegexEngine] [LawfulRegexEngine]

/-- What the sources that are compiled come to when they are read alone. -/
theorem readAlone_of_wholeRegex? {w : RegexEngine.Compiled}
    (h : wholeRegex? source flags = some w) :
    (∃ rest, (readAlone source flags).2 = ')' :: rest) ∨
    'x' ∈ flags.toList ∧ (readAlone source flags).2 = ['\\'] ∨
    (∃ r, Regex.parse? (regexModes flags) source.toList = some r) ∧ ∃ t,
      (∀ text : String, RegexEngine.isMatch w text = true ↔
        t.content.Matches text.toList 0 text.toList.length) ∧
      (t = (readAlone source flags).1 ∨
        'x' ∈ flags.toList ∧ (readAlone source flags).1.modes.freeForm = false ∧
          ∃ e, (readAlone source flags).1.modes.expression? (.char '\n') = some e ∧
            t = (readAlone source flags).1.push e) := by
  obtain ⟨whole, hwhole⟩ := LawfulRegexEngine.exists_parse h
  have hmatch : ∀ text : String, RegexEngine.isMatch w text = true ↔
      ∃ i j, i ≤ text.toList.length ∧ whole.Matches text.toList i j :=
    LawfulRegexEngine.isMatch_iff h hwhole
  obtain ⟨hw, hdepth⟩ := Option.filter_eq_some_iff.mp hwhole
  rw [decide_eq_true_iff] at hdepth
  obtain ⟨cs, hcs, hb⟩ := before_anchored source flags
  rw [hcs, Regex.parseFrom_opening] at hw
  have hinner : ∀ s : Regex.ParseState,
      (s.closed (anchorGroup (regexModes flags))).content.depth ≤ Regex.maxDepth →
        s.content.depth ≤ Regex.maxDepth := by
    intro s hs
    have hlt : (group s.content false).depth <
        (concat [look .textStart, group s.content false, look .textEnd]).depth :=
      depth_lt_concat (by simp)
    rw [← content_closed s (regexModes flags), depth] at hlt
    omega
  rcases parseFrom_within hb hw with ⟨-, hclose⟩ | ⟨hx, hslash⟩ | ⟨hend, hclosed, hcontent⟩
  · exact .inl hclose
  · exact .inr (.inl ⟨of_decide_eq_true hx, hslash⟩)
  · right; right
    rcases hcontent with rfl | ⟨hx, hfree, e, he, rfl⟩
    · refine ⟨⟨_, parse?_of_readAlone hend hclosed (hinner _ hdepth)⟩, _, ?_, .inl rfl⟩
      exact fun text => (hmatch text).trans exists_matches_anchored_iff
    · refine ⟨⟨_, parse?_of_readAlone hend hclosed ?_⟩, _, ?_,
        .inr ⟨of_decide_eq_true hx, hfree, e, he, rfl⟩⟩
      · exact Nat.le_trans (depth_content_le_push _ e) (hinner _ hdepth)
      · exact fun text => (hmatch text).trans exists_matches_anchored_iff

/-- **Which sources are matched as written.** A source that is compiled is well formed alone iff
reading it alone does not halt at the end of a group that it did not begin, nor under the flag `x`
at a backslash that the line feed would follow. Unless under the flag `x` it ends out of the free
form, a value is then accepted iff the source alone matches all of it. -/
theorem ValueTest.accepts_compile_regex {l : RegexLiteral} {v : ValueTest}
    (h : compile (.regex l) = .ok v) :
    ((∃ r, Regex.parse? (regexModes l.flags) l.source.toList = some r) ↔
      (readAlone l.source l.flags).2.head? ≠ some ')' ∧
        ('x' ∈ l.flags.toList → (readAlone l.source l.flags).2 ≠ ['\\'])) ∧
    ∀ r, Regex.parse? (regexModes l.flags) l.source.toList = some r →
      ('x' ∈ l.flags.toList → (readAlone l.source l.flags).1.modes.freeForm = true) →
      ∀ text : String, v.accepts text = true ↔ r.Matches text.toList 0 text.toList.length := by
  obtain ⟨w, hw, haccepts⟩ := exists_of_compile_regex h
  have hwhole := readAlone_of_wholeRegex? hw
  constructor
  · constructor
    · rintro ⟨r, hr⟩
      obtain ⟨hend, -⟩ := readAlone_of_parse? hr
      simp [hend]
    · rintro ⟨hclose, hslash⟩
      rcases hwhole with ⟨rest, hrest⟩ | ⟨hx, hrest⟩ | ⟨hr, -⟩
      · exact absurd (by rw [hrest]; rfl) hclose
      · exact absurd hrest (hslash hx)
      · exact hr
  · intro r hr hfree text
    obtain ⟨hend, rfl⟩ := readAlone_of_parse? hr
    rcases hwhole with ⟨rest, hrest⟩ | ⟨hx, hrest⟩ | ⟨-, t, ht, rfl | ⟨hx, hoff, -⟩⟩
    · simp [hrest] at hend
    · simp [hrest] at hend
    · rw [haccepts]
      exact ht text
    · simp [hfree hx] at hoff

end

/-- A choice with a comment that the line feed ends is matched as written. -/
theorem ValueTest.accepts_compile_regex_comment :
    ∃ v, ValueTest.compile (.regex ⟨"a | b # either", "x", 0⟩) = .ok v ∧
      ∃ r, Regex.parse? (regexModes "x") "a | b # either".toList = some r ∧
        ∀ text : String, v.accepts text = true ↔ r.Matches text.toList 0 text.toList.length := by
  obtain ⟨w, hw⟩ : ∃ w, wholeRegex? "a | b # either" "x" = some w :=
    Option.isSome_iff_exists.mp (by cbv)
  have h := ValueTest.compile_regex (l := ⟨"a | b # either", "x", 0⟩) hw
  have hend : (readAlone "a | b # either" "x").2 = [] := by cbv
  have hfree : (readAlone "a | b # either" "x").1.modes.freeForm = true := by cbv
  obtain ⟨hformed, haccepts⟩ := ValueTest.accepts_compile_regex h
  obtain ⟨r, hr⟩ := hformed.mpr ⟨by simp [hend], by simp [hend]⟩
  exact ⟨_, h, r, hr, haccepts r hr fun _ => hfree⟩

/-- Not every source that is compiled is matched as written: one ends the group and is not well
formed alone, the other leaves the free form and is matched with a line feed after it. -/
theorem ValueTest.not_forall_accepts_compile_regex :
    ∃ v w, ValueTest.compile (.regex ⟨"a)|(?:b", "", 0⟩) = .ok v ∧
      Regex.parse? (regexModes "") "a)|(?:b".toList = none ∧ v.accepts "ax" = true ∧
      ValueTest.compile (.regex ⟨"(?-x)a", "x", 0⟩) = .ok w ∧
      ∃ r, Regex.parse? (regexModes "x") "(?-x)a".toList = some r ∧
        r.Matches "a".toList 0 1 ∧ w.accepts "a" = false ∧ w.accepts "a\n" = true := by
  have hleft : (wholeRegex? "a)|(?:b" "").map (RegexEngine.isMatch · "ax") = some true := by cbv
  have hright : (wholeRegex? "(?-x)a" "x").map
      (fun w => (RegexEngine.isMatch w "a", RegexEngine.isMatch w "a\n")) =
        some (false, true) := by cbv
  have hnone : Regex.parse? (regexModes "") "a)|(?:b".toList = none := by
    rw [← Option.isNone_iff_eq_none]
    cbv
  have hparse : Regex.parse? (regexModes "x") "(?-x)a".toList =
      some (.concat [.empty, .char (.single 'a') 0]) := by cbv
  obtain ⟨v, hv, hleft⟩ := Option.map_eq_some_iff.mp hleft
  obtain ⟨w, hw, hright⟩ := Option.map_eq_some_iff.mp hright
  obtain ⟨ha, hlf⟩ := Prod.mk.inj hright
  refine ⟨_, _, ValueTest.compile_regex (l := ⟨_, _, 0⟩) hv, hnone, hleft,
    ValueTest.compile_regex (l := ⟨_, _, 0⟩) hw, _, hparse, ?_, ha, hlf⟩
  refine matches_concat.mpr ⟨0, by rw [Matches], 1, ?_, rfl⟩
  rw [Matches]
  exact ⟨rfl, 'a', rfl, by cbv⟩

end Motif.Pattern
