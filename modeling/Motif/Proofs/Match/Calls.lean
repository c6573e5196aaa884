import Motif.Match.Stream

/-!
# Runs of a matcher

A matcher is asked for one thing after the other: to take a token, to say whether the stream may end
here, or to begin anew. `pastFrom` says which symbols count at any point of such a run, which are
those since the last match.

* `add_cases`: what a token can do to a matcher.
* `after_pattern`, `after_counting`: what a matcher looks for stays the same throughout a run.
-/

namespace Motif

variable [RegexEngine]

/-- What a matcher can be asked for. -/
inductive Call where
  | add (t : Token)
  | finish
  | reset
  deriving DecidableEq

namespace Matcher

/-- The answer to a call, and the matcher after it. Beginning anew is never a match. -/
def call (m : Matcher) : Call → Bool × Matcher
  | .add t => m.add t
  | .finish => m.finish
  | .reset => (false, m.reset)

/-- The matcher after calls. -/
def after (m : Matcher) (calls : List Call) : Matcher :=
  calls.foldl (fun m c => (m.call c).2) m

/-- The answers to calls. -/
def answers (m : Matcher) : List Call → List Bool
  | [] => []
  | c :: cs => (m.call c).1 :: (m.call c).2.answers cs

/-- The symbols that count after a call if those in `past` do before it. A token that is passed over
does not count, and after a match only what is still to come does. -/
def heard (m : Matcher) (past : List Symbol) : Call → List Symbol
  | .add t =>
    if m.skips t then past
    else if (m.add t).1 then []
    else past ++ [.token t]
  | .finish => past
  | .reset => [.sentinel .start]

/-- The symbols that count after calls if those in `past` do before them. -/
def pastFrom (m : Matcher) (past : List Symbol) : List Call → List Symbol
  | [] => past
  | c :: cs => (m.call c).2.pastFrom (m.heard past c) cs

/-- No thread is dropped with a call: there is room for all that are left if there is no match. -/
def Keeps (m : Matcher) : Call → Prop
  | .add t =>
    m.skips t = false → (m.add t).1 = false → (m.run (.token t)).distinct.length ≤ m.limit
  | .finish | .reset => True

/-- No thread is dropped with any of the calls. -/
def KeepsAll (m : Matcher) : List Call → Prop
  | [] => True
  | c :: cs => m.Keeps c ∧ (m.call c).2.KeepsAll cs

/-- The threads that are fed the next symbol: those in the frontier, or at the start those that have
taken the sentinel. -/
def primed (m : Matcher) : List Thread :=
  if m.atStart && m.pattern.graph.hasStartAnchor then
    (m.pattern.graph.step m.counting m.frontier (.sentinel .start)).distinct
  else m.frontier

theorem run_eq (m : Matcher) (sym : Symbol) :
    m.run sym = m.pattern.graph.step m.counting m.primed sym := rfl

end Matcher

/-- The symbols that count after calls to a matcher before its first token. -/
def CompiledPattern.past (p : CompiledPattern) (calls : List Call) : List Symbol :=
  p.matcher.pastFrom [.sentinel .start] calls

namespace Matcher

variable {m : Matcher} {t : Token}

/-! ## Single calls -/

/-- A token is passed over, or it completes an attempt, or those under way go on. -/
theorem add_cases (m : Matcher) (t : Token) :
    (m.skips t = true ∧ m.add t = (false, { m with matched := false })) ∨
    (m.skips t = false ∧ (m.run (.token t)).completed = true ∧
      m.add t = (true, { m with frontier := [], matched := true, atStart := false })) ∨
    (m.skips t = false ∧ (m.run (.token t)).completed = false ∧
      m.add t = (false,
        { m with
          frontier := (m.run (.token t)).distinct.take m.limit
          matched := false
          atStart := false })) := by
  unfold add
  by_cases hs : m.skips t = true
  · exact .inl ⟨hs, if_pos hs⟩
  · rw [if_neg hs]
    cases hc : (m.run (.token t)).completed with
    | true => exact .inr (.inl ⟨by simpa using hs, rfl, by simp [hc]⟩)
    | false => exact .inr (.inr ⟨by simpa using hs, rfl, by simp [hc]⟩)

theorem add_of_skips (h : m.skips t = true) : m.add t = (false, { m with matched := false }) :=
  if_pos h

theorem add_fst_of_not_skips (h : m.skips t = false) :
    (m.add t).1 = (m.run (.token t)).completed := by
  rw [add, if_neg (by simp [h])]

/-- After a match a matcher has no threads. -/
theorem add_of_matched (h : (m.add t).1 = true) :
    m.skips t = false ∧ (m.run (.token t)).completed = true ∧
      m.add t = (true, { m with frontier := [], matched := true, atStart := false }) := by
  rcases m.add_cases t with ⟨-, hm⟩ | hm | ⟨-, -, hm⟩
  · rw [hm] at h
    cases h
  · exact hm
  · rw [hm] at h
    cases h

/-- Without a match the threads go on for which there is room. -/
theorem add_of_unmatched (hs : m.skips t = false) (h : (m.add t).1 = false) :
    m.add t = (false,
      { m with
        frontier := (m.run (.token t)).distinct.take m.limit
        matched := false
        atStart := false }) := by
  rcases m.add_cases t with ⟨hs', -⟩ | ⟨-, -, hm⟩ | ⟨-, -, hm⟩
  · cases hs.symm.trans hs'
  · rw [hm] at h
    cases h
  · exact hm

theorem keeps_of_run_eq {r : Report} (h : m.run (.token t) = r)
    (hr : r.distinct.length ≤ m.limit) : m.Keeps (.add t) :=
  fun _ _ => h ▸ hr

theorem call_pattern (m : Matcher) (c : Call) : (m.call c).2.pattern = m.pattern := by
  cases c with
  | add t =>
    rw [call]
    rcases m.add_cases t with ⟨-, h⟩ | ⟨-, -, h⟩ | ⟨-, -, h⟩ <;> rw [h]
  | finish | reset => rfl

theorem call_counting (m : Matcher) (c : Call) : (m.call c).2.counting = m.counting := by
  cases c with
  | add t =>
    rw [call]
    rcases m.add_cases t with ⟨-, h⟩ | ⟨-, -, h⟩ | ⟨-, -, h⟩ <;> rw [h]
  | finish | reset => rfl

theorem reset_pattern (m : Matcher) : m.reset.pattern = m.pattern := rfl

theorem skips_congr {n : Matcher}
    (h : m.pattern.options.includeWhitespace = n.pattern.options.includeWhitespace) (t : Token) :
    m.skips t = n.skips t := by
  rw [skips, Options.skipsWhitespace, h]
  rfl

/-- Which symbols count after a call depends on what is passed over and on the answer alone. -/
theorem heard_congr {n : Matcher} {past : List Symbol} {c : Call}
    (hw : m.pattern.options.includeWhitespace = n.pattern.options.includeWhitespace)
    (h : (m.call c).1 = (n.call c).1) :
    m.heard past c = n.heard past c := by
  cases c with
  | add t =>
    have ha : (m.add t).1 = (n.add t).1 := h
    rw [heard, heard, skips_congr hw, ha]
  | finish | reset => rfl

/-! ## Runs -/

@[simp] theorem after_nil (m : Matcher) : m.after [] = m := rfl

@[simp] theorem after_cons (m : Matcher) (c : Call) (cs : List Call) :
    m.after (c :: cs) = (m.call c).2.after cs := rfl

theorem after_append (m : Matcher) (cs ds : List Call) :
    m.after (cs ++ ds) = (m.after cs).after ds :=
  List.foldl_append

theorem keepsAll_append {m : Matcher} {cs ds : List Call} :
    m.KeepsAll (cs ++ ds) ↔ m.KeepsAll cs ∧ (m.after cs).KeepsAll ds := by
  induction cs generalizing m with
  | nil => exact (and_iff_right trivial).symm
  | cons c cs ih =>
    rw [List.cons_append, KeepsAll, KeepsAll, ih, and_assoc]
    rfl

theorem after_pattern (m : Matcher) (calls : List Call) :
    (m.after calls).pattern = m.pattern := by
  induction calls generalizing m with
  | nil => rfl
  | cons c cs ih => rw [after_cons, ih, call_pattern]

theorem after_counting (m : Matcher) (calls : List Call) :
    (m.after calls).counting = m.counting := by
  induction calls generalizing m with
  | nil => rfl
  | cons c cs ih => rw [after_cons, ih, call_counting]

end Matcher

end Motif
