import Mathlib
import Motif.Proofs.Match.Calls
import Motif.Regex.Standard

/-!
# Calls that leave no trace (specification §4.7, §8, E4)

To ask whether a stream may end here changes nothing but what the matcher last said, and so does a
token that is passed over. All that the further run of a matcher depends on is the pattern, the
threads, and whether the start of the stream is still to come for a pattern that asks for it
(`Resumes`). So calls of these kinds may be left out of a run, and where a matcher holds what a
fresh one holds it goes on like a fresh one.

After a match a matcher goes on like a fresh one (§8) only if the pattern does not ask for the start
of the stream, which comes once (E4).

* `Resumes.outcomes`: matchers that agree on what counts show the same in all later calls.
* `outcomesMarked_eq`: calls that leave no trace may be left out.
* `matched_after`: a matcher remembers its last answer.
* **`probes_leave_no_trace`**: both, and when a matcher goes on like a fresh one.
-/

namespace Motif

/-- What is seen of a call: the answer, and of the matcher after it the threads and whether it says
that it is at a match. -/
structure Outcome where
  answer : Bool
  frontier : List Thread
  matched : Bool
  deriving DecidableEq

section

variable [RegexEngine]

namespace Matcher

variable {m n : Matcher}

/-- What is seen of a call. -/
def outcome (m : Matcher) (c : Call) : Outcome where
  answer := (m.call c).1
  frontier := (m.call c).2.frontier
  matched := (m.call c).2.matched

/-- What is seen of the calls of a run. -/
def outcomes (m : Matcher) : List Call → List Outcome
  | [] => []
  | c :: cs => m.outcome c :: (m.call c).2.outcomes cs

/-- What is seen in a run of those of its calls that are marked. -/
def outcomesMarked (m : Matcher) : List (Call × Bool) → List Outcome
  | [] => []
  | (c, marked) :: cs =>
    (if marked then [m.outcome c] else []) ++ (m.call c).2.outcomesMarked cs

/-- Whether a call is one that asks only: whether the stream may end here, or what a token does that
is passed over. -/
def probes (m : Matcher) : Call → Bool
  | .add t => m.skips t
  | .finish => true
  | .reset => false

theorem probes_call (m : Matcher) (c d : Call) : (m.call c).2.probes d = m.probes d := by
  cases d with
  | add t => exact skips_congr (congrArg (·.options.includeWhitespace) (m.call_pattern c)) t
  | finish | reset => rfl

/-! ## What later calls depend on -/

/-- Two matchers agree on all that their further runs depend on. -/
structure Resumes (m n : Matcher) : Prop where
  pattern : m.pattern = n.pattern
  counting : m.counting = n.counting
  frontier : m.frontier = n.frontier
  atStart : m.atStart = n.atStart ∨ m.pattern.graph.hasStartAnchor = false

theorem Resumes.refl (m : Matcher) : m.Resumes m :=
  ⟨rfl, rfl, rfl, .inl rfl⟩

theorem Resumes.trans {o : Matcher} (h : m.Resumes n) (h' : n.Resumes o) : m.Resumes o where
  pattern := h.pattern.trans h'.pattern
  counting := h.counting.trans h'.counting
  frontier := h.frontier.trans h'.frontier
  atStart := by
    rcases h.atStart with ha | ha
    · exact h'.atStart.imp ha.trans (congrArg (·.graph.hasStartAnchor) h.pattern).trans
    · exact .inr ha

theorem Resumes.run (h : m.Resumes n) (sym : Symbol) : m.run sym = n.run sym := by
  have hstart : (m.atStart && m.pattern.graph.hasStartAnchor) =
      (n.atStart && m.pattern.graph.hasStartAnchor) := by
    rcases h.atStart with ha | ha
    · rw [ha]
    · rw [ha, Bool.and_false, Bool.and_false]
  rw [Matcher.run, Matcher.run, hstart, h.pattern, h.counting, h.frontier]

theorem Resumes.skips (h : m.Resumes n) (t : Token) : m.skips t = n.skips t :=
  skips_congr (congrArg (·.options.includeWhitespace) h.pattern) t

/-- **A call** shows the same if matchers agree on what counts, and they still agree after it. -/
theorem Resumes.call (h : m.Resumes n) (c : Call) :
    m.outcome c = n.outcome c ∧ (m.call c).2.Resumes (n.call c).2 := by
  have hlimit : m.limit = n.limit := by rw [limit, limit, h.pattern]
  cases c with
  | reset => exact ⟨rfl, h.pattern, h.counting, rfl, .inl rfl⟩
  | finish =>
    refine ⟨?_, h.pattern, h.counting, h.frontier, h.atStart⟩
    simp only [outcome, Matcher.call, finish, h.run, h.frontier]
  | add t =>
    simp only [outcome, Matcher.call, add, h.skips, h.run, hlimit]
    split
    · exact ⟨by simp only [h.frontier], h.pattern, h.counting, h.frontier, h.atStart⟩
    · exact ⟨rfl, h.pattern, h.counting, rfl, .inl rfl⟩

/-- **All later calls** show the same if matchers agree on what counts. -/
theorem Resumes.outcomes (h : m.Resumes n) (calls : List Call) :
    m.outcomes calls = n.outcomes calls := by
  induction calls generalizing m n with
  | nil => rfl
  | cons c cs ih =>
    obtain ⟨hc, hcs⟩ := h.call c
    rw [Matcher.outcomes, Matcher.outcomes, hc, ih hcs]

/-! ## Calls that may be left out -/

/-- **A call that asks only** changes nothing that counts. -/
theorem resumes_of_probes {c : Call} (h : m.probes c = true) : (m.call c).2.Resumes m := by
  cases c with
  | reset => cases h
  | finish => exact ⟨rfl, rfl, rfl, .inl rfl⟩
  | add t =>
    rw [Matcher.call, add_of_skips h]
    exact ⟨rfl, rfl, rfl, .inl rfl⟩

/-- **A run** shows the same of the calls that are marked if the others are left out, where those
are calls that ask only. -/
theorem outcomesMarked_eq {calls : List (Call × Bool)}
    (h : ∀ x ∈ calls, x.2 = false → m.probes x.1 = true) :
    m.outcomesMarked calls = m.outcomes ((calls.filter (·.2)).map (·.1)) := by
  induction calls generalizing m with
  | nil => rfl
  | cons x calls ih =>
    obtain ⟨c, marked⟩ := x
    obtain ⟨hc, hcalls⟩ := List.forall_mem_cons.mp h
    have hrest := ih (m := (m.call c).2) fun x hx hmark => by
      rw [probes_call]
      exact hcalls x hx hmark
    rw [outcomesMarked, hrest]
    cases marked with
    | true => rfl
    | false => exact (resumes_of_probes (hc rfl)).outcomes _

/-! ## Answers that are remembered -/

theorem call_matched (m : Matcher) (c : Call) : (m.call c).2.matched = (m.call c).1 := by
  cases c with
  | finish | reset => rfl
  | add t =>
    rw [call]
    rcases m.add_cases t with ⟨-, h⟩ | ⟨-, -, h⟩ | ⟨-, -, h⟩ <;> rw [h]

/-- **A matcher remembers** its last answer. -/
theorem matched_after (m : Matcher) (calls : List Call) :
    (m.after calls).matched = (m.answers calls).getLast?.getD m.matched := by
  induction calls generalizing m with
  | nil => rfl
  | cons c cs ih =>
    rw [after_cons, ih, answers, List.getLast?_cons, call_matched]
    rfl

end Matcher

namespace CompiledPattern

/-- A matcher that begins anew is a fresh one. -/
theorem reset_after (p : CompiledPattern) (calls : List Call) :
    (p.matcher.after calls).reset = p.matcher := by
  rw [Matcher.reset, Matcher.after_pattern, Matcher.after_counting]
  rfl

/-- After a match a matcher agrees with a fresh one on all that counts, but for the start of the
stream. -/
theorem resumes_matcher_of_matched {p : CompiledPattern} (h : p.graph.hasStartAnchor = false)
    {calls : List Call} {t : Token} (ht : ((p.matcher.after calls).add t).1 = true) :
    ((p.matcher.after calls).add t).2.Resumes p.matcher := by
  have hp : (p.matcher.after calls).pattern = p := Matcher.after_pattern _ _
  rw [(Matcher.add_of_matched ht).2.2]
  exact ⟨hp, Matcher.after_counting _ _, rfl,
    .inr ((congrArg (·.graph.hasStartAnchor) hp).trans h)⟩

/-- **Calls that ask only leave no trace.** Whichever of them are left out of a run, the other calls
show the same: the same answers, threads and matches. A matcher says that it is at a match if its
last answer was one. Where it begins anew it is a fresh matcher, and after a match it shows in all
later calls what a fresh one would, if the pattern does not ask for the start of the stream. -/
theorem probes_leave_no_trace (p : CompiledPattern) :
    (∀ calls : List (Call × Bool), (∀ x ∈ calls, x.2 = false → p.matcher.probes x.1 = true) →
      p.matcher.outcomesMarked calls = p.matcher.outcomes ((calls.filter (·.2)).map (·.1))) ∧
    (∀ calls : List Call,
      (p.matcher.after calls).matched = (p.matcher.answers calls).getLast?.getD false) ∧
    (∀ calls : List Call, p.matcher.after (calls ++ [.reset]) = p.matcher) ∧
    (p.graph.hasStartAnchor = false → ∀ (calls : List Call) (t : Token),
      ((p.matcher.after calls).add t).1 = true → ∀ later : List Call,
        (p.matcher.after (calls ++ [.add t])).outcomes later = p.matcher.outcomes later) := by
  refine ⟨fun calls h => Matcher.outcomesMarked_eq h, fun calls => p.matcher.matched_after calls,
    fun calls => ?_, fun h calls t ht later => ?_⟩
  · rw [Matcher.after_append]
    exact p.reset_after calls
  · rw [Matcher.after_append]
    exact (resumes_matcher_of_matched h ht).outcomes later

end CompiledPattern

end

/-- A matcher for `(word symbol)+ special` that is asked in the middle of a repetition whether the
stream may end, and fed white space. -/
theorem CompiledPattern.probes_leave_no_trace_repetition :
    ∃ p, ofElements
        [.repetition (.group [.token ⟨some .word, []⟩, .token ⟨some .symbol, []⟩]) .plus,
          .token ⟨some .special, []⟩] "(word symbol)+ special" {} = .ok p ∧
      let word : Token := { kind := .word }
      let blank : Token := { kind := .whitespace, text := " " }
      let symbol : Token := { kind := .symbol }
      let special : Token := { kind := .special }
      let kept : List Call := [.add word, .add symbol, .add special]
      p.matcher.outcomesMarked [(.finish, false), (.add word, true), (.finish, false),
        (.add blank, false), (.add symbol, true), (.finish, false), (.add special, true)] =
          p.matcher.outcomes kept ∧
      (p.matcher.after (kept ++ [.add blank])).matched = false ∧
      p.matcher.after (kept ++ [.reset]) = p.matcher ∧
      p.matcher.answers kept = [false, false, true] ∧
      ∀ later, (p.matcher.after kept).outcomes later = p.matcher.outcomes later := by
  refine ⟨_, rfl, ?_⟩
  intro word blank symbol special kept
  refine ⟨(probes_leave_no_trace _).1 _ (by decide), ?_, (probes_leave_no_trace _).2.2.1 kept,
    by cbv, ?_⟩
  · rw [(probes_leave_no_trace _).2.1]
    cbv
  · exact (probes_leave_no_trace _).2.2.2 (by cbv) [.add word, .add symbol] special (by cbv)

end Motif
