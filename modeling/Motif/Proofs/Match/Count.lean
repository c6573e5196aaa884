import Mathlib
import Motif.Proofs.Match.Attempts
import Motif.Proofs.Match.Walk
import Motif.Regex.Standard

/-!
# Counts that make no difference (specification §4.5, E4)

A matcher may tell all counts apart. The one that cuts them down then does the same with fewer
threads: its threads are those of the other with every count cut down and, at every level, each
thread at its first place. For neither can a repetition go on with a count for which the other could
not, and none is enough for one of them only; this holds also at the largest bound there can be.

* `clamp_next`, `allowsMore_next`, `isSatisfied_next`: counting from a count that is cut down.
* `merges_advance`, `merges_step`: a thread that is cut down reports what it would otherwise, cut
  down.
* **`answers_eq_exact`**: the two matchers give the same answers, and hold the same threads but for
  what is cut down.
-/

namespace Motif

/-! ## Counts -/

namespace Pattern

/-- Counting that tells all counts apart. -/
def Counting.exact : Counting :=
  fun _ count => count + 1

namespace Span

variable {s : Span} {count : Nat}

/-- No bound of a pattern is past the largest count. -/
theorem toNat_le_maxCount (n : UInt32) : n.toNat ≤ maxCount := by
  have hlt : n.toNat < UInt32.size := n.toNat_lt
  unfold maxCount
  omega

@[simp] theorem clamp_zero (s : Span) : s.clamp 0 = 0 := by
  unfold clamp
  split <;> simp

/-- A count that was cut down allows one more iff the exact count does. -/
theorem allowsMore_next (s : Span) (count : Nat) :
    s.allowsMore (s.next (s.clamp count)) = s.allowsMore (count + 1) := by
  obtain ⟨min, max⟩ := s
  cases max with
  | none => rfl
  | some m =>
    have := toNat_le_maxCount m
    simp only [allowsMore, next, clamp, Option.isSome_some, if_true, Option.all_some,
      decide_eq_decide]
    omega

/-- It suffices iff the exact count does. -/
theorem isSatisfied_next (s : Span) (count : Nat) :
    s.isSatisfied (s.next (s.clamp count)) = s.isSatisfied (count + 1) := by
  obtain ⟨min, max⟩ := s
  have := toNat_le_maxCount min
  cases max with
  | none | some m =>
    simp only [isSatisfied, next, clamp, Option.isSome_none, Option.isSome_some, if_true,
      Bool.false_eq_true, if_false, decide_eq_decide]
    omega

/-- A count that is cut down leads to the next one, cut down, if there is a further repetition. -/
theorem clamp_next (h : s.allowsMore (count + 1) = true) :
    s.next (s.clamp count) = s.clamp (count + 1) := by
  obtain ⟨min, max⟩ := s
  cases max with
  | none =>
    have := toNat_le_maxCount min
    simp only [next, clamp, Option.isSome_none, Bool.false_eq_true, if_false]
    omega
  | some m =>
    have := toNat_le_maxCount m
    simp only [allowsMore, Option.all_some, decide_eq_true_eq] at h
    simp only [next, clamp, Option.isSome_some, if_true]
    omega

end Span

end Pattern

/-! ## Threads that are cut down -/

/-- Duplicates may be left out before a function is applied as well as after. -/
theorem eraseDups_map_eraseDups {α β : Type} [BEq α] [LawfulBEq α] [BEq β] [LawfulBEq β]
    (f : α → β) (as : List α) : (as.eraseDups.map f).eraseDups = (as.map f).eraseDups := by
  rw [List.map_eq_flatMap, List.map_eq_flatMap, eraseDups_flatMap_eraseDups]

/-- Leaving out duplicates makes no list longer. -/
theorem length_eraseDups_le {α : Type} [BEq α] [LawfulBEq α] (as : List α) :
    as.eraseDups.length ≤ as.length :=
  ((nodup_eraseDups as).subperm fun _ ha => List.mem_eraseDups.mp ha).length_le

/-- One report is the other with its threads replaced, but for threads that are reported again. -/
structure Report.Merges (f : Thread → Thread) (r r' : Report) : Prop where
  threads : r'.threads.eraseDups = (r.threads.map f).eraseDups
  completed : r'.completed = r.completed
  progressed : r'.progressed = r.progressed

namespace Report

variable {f : Thread → Thread} {r r' s s' : Report}

theorem merges_empty : Merges f ∅ ∅ :=
  ⟨rfl, rfl, rfl⟩

theorem merges_singleton {t t' : Thread} (h : t' = f t) :
    Merges f { threads := [t] } { threads := [t'] } :=
  ⟨by rw [h]; rfl, rfl, rfl⟩

/-- Reports that are put together merge part by part. -/
theorem Merges.append (hr : Merges f r r') (hs : Merges f s s') :
    Merges f (r ++ s) (r' ++ s') where
  threads := by
    rw [append_threads, append_threads, List.map_append]
    exact eraseDups_append_congr hr.threads hs.threads
  completed := by rw [append_completed, append_completed, hr.completed, hs.completed]
  progressed := by rw [append_progressed, append_progressed, hr.progressed, hs.progressed]

theorem Merges.ite {b b' : Bool} (hb : b' = b) (h : b = true → Merges f r r') :
    Merges f (if b then r else ∅) (if b' then r' else ∅) := by
  subst hb
  cases b' with
  | false => exact merges_empty
  | true => exact h rfl

theorem Merges.withProgress (h : Merges f r r') {p p' : Bool} (hp : p' = p) :
    Merges f { r with progressed := p } { r' with progressed := p' } :=
  ⟨h.threads, h.completed, hp⟩

/-- What is merged has the same threads without duplicates, cut down. -/
theorem Merges.distinct (h : Merges f r r') : r'.distinct = (r.distinct.map f).eraseDups := by
  rw [distinct_eq, distinct_eq, h.threads, eraseDups_map_eraseDups]

theorem Merges.isEmpty_distinct (h : Merges f r r') : r'.distinct.isEmpty = r.distinct.isEmpty := by
  rw [h.distinct]
  cases r.distinct with
  | nil => rfl
  | cons t ts => rw [List.map_cons, List.eraseDups_cons]; rfl

/-- Joined reports merge one by one. -/
theorem merges_join {α : Type} {F F' : α → Report} {l : List α}
    (h : ∀ i ∈ l, Merges f (F i) (F' i)) : Merges f (.join (l.map F)) (.join (l.map F')) := by
  induction l with
  | nil => exact merges_empty
  | cons i l ih =>
    obtain ⟨hi, hl⟩ := List.forall_mem_cons.mp h
    exact hi.append (ih hl)

theorem join_append (rs ss : List Report) : join (rs ++ ss) = join rs ++ join ss := by
  induction rs with
  | nil => rw [List.nil_append, join_nil, empty_append]
  | cons r rs ih => rw [List.cons_append, join_cons, join_cons, ih, append_assoc]

/-- A joined report completes if one of its parts does. -/
theorem join_completed (rs : List Report) :
    (join rs).completed = rs.any (·.completed) := by
  induction rs with
  | nil => rfl
  | cons r rs ih => rw [join_cons, append_completed, ih, List.any_cons]

theorem join_progressed (rs : List Report) :
    (join rs).progressed = rs.any (·.progressed) := by
  induction rs with
  | nil => rfl
  | cons r rs ih => rw [join_cons, append_progressed, ih, List.any_cons]

theorem any_eraseDups {α : Type} [BEq α] [LawfulBEq α] (p : α → Bool) (as : List α) :
    as.eraseDups.any p = as.any p := by
  rw [Bool.eq_iff_iff]
  simp only [List.any_eq_true, List.mem_eraseDups]

/-- **Threads that are cut down** report what they would otherwise, cut down, and each of them need
be asked only once. -/
theorem merges_join_eraseDups {F F' : Thread → Report} {ts : List Thread}
    (h : ∀ t ∈ ts, Merges f (F t) (F' (f t))) :
    Merges f (.join (ts.map F)) (.join ((ts.map f).eraseDups.map F')) := by
  have hall : Merges f (.join (ts.map F)) (.join ((ts.map f).map F')) := by
    rw [List.map_map]
    exact merges_join h
  constructor
  · rw [← hall.threads, join_threads, join_threads, List.flatMap_map, List.flatMap_map,
      eraseDups_flatMap_eraseDups]
  · rw [← hall.completed, join_completed, join_completed, List.any_map, List.any_map,
      any_eraseDups]
  · rw [← hall.progressed, join_progressed, join_progressed, List.any_map, List.any_map,
      any_eraseDups]

end Report

section

variable [RegexEngine]

/-- A count of the repetition numbered `id`, cut down. -/
def Graph.clampCount (g : Graph) (id count : Nat) : Nat :=
  match g.node? id with
  | some (.repetition _ span _) => span.clamp count
  | _ => count

/-- A thread with all counts cut down and, at every level, each thread at its first place. -/
def Thread.clamped (g : Graph) : Thread → Thread
  | before id => before id
  | repetition id count threads =>
    repetition id (g.clampCount id count) (threads.map (clamped g)).eraseDups
  | negation id threads => negation id (threads.map (clamped g)).eraseDups

/-! ## What nodes and threads report -/

namespace Graph

open Pattern Report

variable {g : Graph} {sym : Symbol} {id body : Nat} {span : Span} {next : Option Nat}
  {inner inner' : Report}

theorem clamped_before (id : Nat) : (Thread.before id).clamped g = .before id := by
  rw [Thread.clamped]

/-- In a repetition the count is cut down, and with it the threads of the body. -/
theorem clamped_repetition (hn : g.node? id = some (.repetition body span next)) (count : Nat)
    (ts : List Thread) : (Thread.repetition id count ts).clamped g =
      .repetition id (span.clamp count) (ts.map (Thread.clamped g)).eraseDups := by
  rw [Thread.clamped, clampCount, hn]

theorem clamped_negation (id : Nat) (ts : List Thread) :
    (Thread.negation id ts).clamped g = .negation id (ts.map (Thread.clamped g)).eraseDups := by
  rw [Thread.clamped]

/-- Nodes are entered with no count yet, so nothing is cut down there. -/
theorem merges_leave (next : Option Nat) :
    Merges (Thread.clamped g) (g.leave next) (g.leave next) := by
  cases next with
  | none => exact ⟨rfl, rfl, rfl⟩
  | some l => exact ⟨by rw [leave, List.map_singleton, clamped_before], rfl, rfl⟩

/-- **A repetition** with its count cut down reports what it would otherwise, cut down. -/
theorem merges_stepRepetition (hn : g.node? id = some (.repetition body span next)) (count : Nat)
    (h : Merges (Thread.clamped g) inner inner') :
    Merges (Thread.clamped g) (g.stepRepetition Counting.exact id body span next count inner)
      (g.stepRepetition Span.next id body span next (span.clamp count) inner') := by
  have hrunning : Merges (Thread.clamped g)
      (if inner.distinct.isEmpty then ∅ else { threads := [.repetition id count inner.distinct] })
      (if inner'.distinct.isEmpty then ∅ else
        { threads := [.repetition id (span.clamp count) inner'.distinct] }) := by
    rw [h.isEmpty_distinct]
    split
    · exact merges_empty
    · refine merges_singleton ?_
      rw [clamped_repetition hn, h.distinct]
  have hagain : Merges (Thread.clamped g)
      (if span.allowsMore (count + 1) then
        { threads := [.repetition id (count + 1) [.before body]] } else ∅)
      (if span.allowsMore (span.next (span.clamp count)) then
        { threads := [.repetition id (span.next (span.clamp count)) [.before body]] } else ∅) := by
    refine Merges.ite (span.allowsMore_next count) fun hmore => merges_singleton ?_
    rw [clamped_repetition hn, Span.clamp_next hmore, List.map_singleton, clamped_before]
    rfl
  have hafter : Merges (Thread.clamped g)
      (if span.isSatisfied (count + 1) || g.isNullable body then g.leave next else ∅)
      (if span.isSatisfied (span.next (span.clamp count)) || g.isNullable body then
        g.leave next else ∅) :=
    Merges.ite (by rw [span.isSatisfied_next]) fun _ => merges_leave next
  exact (hrunning.append (Merges.ite h.completed fun _ => hagain.append hafter)).withProgress
    h.progressed

/-- **A negation** reports what it would otherwise, cut down. -/
theorem merges_stepNegation (id : Nat) (next : Option Nat)
    (h : Merges (Thread.clamped g) inner inner') :
    Merges (Thread.clamped g) (g.stepNegation id next sym inner)
      (g.stepNegation id next sym inner') := by
  cases sym with
  | sentinel s => exact merges_empty
  | token t =>
    unfold stepNegation
    dsimp only
    rw [h.progressed]
    split
    · refine Merges.withProgress (merges_singleton ?_) rfl
      rw [clamped_negation, h.distinct]
    · exact (merges_leave next).withProgress rfl

/-- Whether a symbol is accepted does not depend on counts. -/
theorem merges_stepIf (accepted : Bool) (next : Option Nat) :
    Merges (Thread.clamped g) (g.stepIf accepted next) (g.stepIf accepted next) :=
  Merges.ite rfl fun _ => (merges_leave next).withProgress rfl

/-- **A node** reports what it would otherwise, cut down. -/
theorem merges_walk (id : Nat) : Merges (Thread.clamped g) (g.walk Counting.exact sym [id])
    (g.walk Span.next sym [id]) := by
  induction id using Nat.strongRecOn with
  | ind id ih =>
    cases hn : g.node? id with
    | none =>
      rw [walk_single_of_none hn, walk_single_of_none hn]
      exact merges_empty
    | some n =>
      rw [walk_single hn, walk_single hn]
      refine Merges.append ?_ (merges_join fun l hl =>
        ih l (link_lt hn ((n.pushed_sublist g).subset hl)))
      cases n with
      | atom a next | anchor s next => exact merges_stepIf _ next
      | sequence head exit | alternation branches exit => exact merges_empty
      | repetition body span next =>
        have hbody := ih body (link_lt hn List.mem_cons_self)
        have hstep := merges_stepRepetition hn 0 hbody
        rwa [span.clamp_zero] at hstep
      | negation body next =>
        exact merges_stepNegation id next (ih body (link_lt hn List.mem_cons_self))

/-- **A thread that is cut down** reports what it would otherwise, cut down. -/
theorem merges_advance (t : Thread) : Merges (Thread.clamped g) (g.advance Counting.exact sym t)
    (g.advance Span.next sym (t.clamped g)) := by
  fun_induction Graph.advance g Counting.exact sym t with
  | case1 id =>
    rw [clamped_before, advance]
    exact merges_walk id
  | case2 id count threads body span next hn ih =>
    rw [← advance, advance_repetition hn, clamped_repetition hn, advance_repetition hn]
    exact merges_stepRepetition hn count (merges_join_eraseDups ih)
  | case3 id count threads hn ih =>
    rw [← advance, Thread.clamped, advance_repetition_of_forall_ne hn,
      advance_repetition_of_forall_ne hn]
    exact merges_empty
  | case4 id threads body next hn ih =>
    rw [← advance, advance_negation hn, clamped_negation, advance_negation hn]
    exact merges_stepNegation id next (merges_join_eraseDups ih)
  | case5 id threads hn ih =>
    rw [← advance, clamped_negation, advance_negation_of_forall_ne hn,
      advance_negation_of_forall_ne hn]
    exact merges_empty

/-- **A step** of threads that are cut down reports what it would otherwise, cut down. -/
theorem merges_step (threads : List Thread) :
    Merges (Thread.clamped g) (g.step Counting.exact threads sym)
      (g.step Span.next (threads.map (Thread.clamped g)).eraseDups sym) := by
  have hthreads : Merges (Thread.clamped g)
      (.join (threads.map (g.advance Counting.exact sym)))
      (.join ((threads.map (Thread.clamped g)).eraseDups.map (g.advance Span.next sym))) :=
    merges_join_eraseDups fun t _ => merges_advance t
  have hentry : Merges (Thread.clamped g) (g.advance Counting.exact sym (.before g.entry))
      (g.advance Span.next sym (Thread.clamped g (.before g.entry))) :=
    merges_advance _
  rw [clamped_before] at hentry
  rw [step, step, List.map_append, List.map_append, join_append, join_append]
  exact hthreads.append (hentry.append merges_empty)

end Graph

/-! ## Runs of the two matchers -/

namespace CompiledPattern

/-- A matcher that tells all counts apart, before the first token. -/
def exactMatcher (p : CompiledPattern) : Matcher :=
  { p.matcher with counting := Pattern.Counting.exact }

end CompiledPattern

namespace Matcher

open Pattern Report

/-- `m` tells all counts apart, and `m'` holds its threads, cut down. -/
structure ClampsTo (m m' : Matcher) : Prop where
  pattern : m'.pattern = m.pattern
  exact : m.counting = Counting.exact
  next : m'.counting = Span.next
  atStart : m'.atStart = m.atStart
  frontier : m'.frontier = (m.frontier.map (Thread.clamped m.pattern.graph)).eraseDups

variable {m m' : Matcher} {sym : Symbol}

/-- The threads that a call starts from are those of the exact matcher, cut down. -/
theorem ClampsTo.primed (h : m.ClampsTo m') :
    m'.primed = (m.primed.map (Thread.clamped m.pattern.graph)).eraseDups := by
  unfold Matcher.primed
  rw [h.pattern, h.atStart, h.exact, h.next, h.frontier]
  split
  · exact (Graph.merges_step m.frontier).distinct
  · rfl

/-- So are the threads that a symbol leads to. -/
theorem ClampsTo.run (h : m.ClampsTo m') :
    Merges (Thread.clamped m.pattern.graph) (m.run sym) (m'.run sym) := by
  rw [run_eq, run_eq, h.primed, h.pattern, h.exact, h.next]
  exact Graph.merges_step m.primed

theorem ClampsTo.skips (h : m.ClampsTo m') (t : Token) : m'.skips t = m.skips t :=
  skips_congr (by rw [h.pattern]) t

/-- Both matchers give the same answer. -/
theorem ClampsTo.call_fst (h : m.ClampsTo m') (c : Call) : (m'.call c).1 = (m.call c).1 := by
  cases c with
  | reset => rfl
  | finish => exact h.run.completed
  | add t =>
    show (m'.add t).1 = (m.add t).1
    cases hs : m.skips t with
    | true => rw [add_of_skips hs, add_of_skips ((h.skips t).trans hs)]
    | false =>
      rw [add_fst_of_not_skips hs, add_fst_of_not_skips ((h.skips t).trans hs)]
      exact h.run.completed

/-- The matcher that cuts counts down drops no thread where the other drops none. -/
theorem ClampsTo.keeps (h : m.ClampsTo m') {c : Call} (hk : m.Keeps c) : m'.Keeps c := by
  cases c with
  | finish | reset => trivial
  | add t =>
    intro hs ha
    have hlimit : m'.limit = m.limit := by rw [limit, limit, h.pattern]
    have hle := hk ((h.skips t).symm.trans hs) ((h.call_fst (.add t)).symm.trans ha)
    rw [hlimit, h.run.distinct]
    exact (length_eraseDups_le _).trans (by rwa [List.length_map])

/-- **A call** that drops no thread gets the same answer from both, and leaves them alike. -/
theorem ClampsTo.call (h : m.ClampsTo m') {c : Call} (hk : m.Keeps c) :
    (m.call c).2.ClampsTo (m'.call c).2 := by
  cases c with
  | finish => exact ⟨h.pattern, h.exact, h.next, h.atStart, h.frontier⟩
  | reset => exact ⟨h.pattern, h.exact, h.next, rfl, rfl⟩
  | add t =>
    have hk' : m'.Keeps (.add t) := h.keeps hk
    have hfst : (m'.add t).1 = (m.add t).1 := h.call_fst (.add t)
    show (m.add t).2.ClampsTo (m'.add t).2
    cases hs : m.skips t with
    | true =>
      rw [add_of_skips hs, add_of_skips ((h.skips t).trans hs)]
      exact ⟨h.pattern, h.exact, h.next, h.atStart, h.frontier⟩
    | false =>
      have hs' : m'.skips t = false := (h.skips t).trans hs
      cases ha : (m.add t).1 with
      | true =>
        rw [(add_of_matched ha).2.2, (add_of_matched (hfst.trans ha)).2.2]
        exact ⟨h.pattern, h.exact, h.next, rfl, rfl⟩
      | false =>
        have hle := hk hs ha
        have hle' := hk' hs' (hfst.trans ha)
        rw [add_of_unmatched hs ha, add_of_unmatched hs' (hfst.trans ha)]
        refine ⟨h.pattern, h.exact, h.next, rfl, ?_⟩
        show (m'.run (.token t)).distinct.take _ = _
        rw [List.take_of_length_le hle', List.take_of_length_le hle]
        exact h.run.distinct

/-- **A run** in which no thread is dropped gets the same answers from both, and leaves them
alike. -/
theorem ClampsTo.after (h : m.ClampsTo m') {calls : List Call} (hk : m.KeepsAll calls) :
    m'.KeepsAll calls ∧ m'.answers calls = m.answers calls ∧
      (m.after calls).ClampsTo (m'.after calls) := by
  induction calls generalizing m m' with
  | nil => exact ⟨trivial, rfl, h⟩
  | cons c cs ih =>
    obtain ⟨hc, hcs⟩ := hk
    obtain ⟨hkeeps, hanswers, hafter⟩ := ih (h.call hc) hcs
    exact ⟨⟨h.keeps hc, hkeeps⟩, congrArg₂ List.cons (h.call_fst c) hanswers, hafter⟩

end Matcher

namespace CompiledPattern

/-- Before the first call there is nothing to cut down. -/
theorem clampsTo_matcher (p : CompiledPattern) : p.exactMatcher.ClampsTo p.matcher :=
  ⟨rfl, rfl, rfl, rfl, rfl⟩

/-- **Cutting counts down makes no difference.** In a run in which a matcher that tells all counts
apart drops no thread, the one that cuts them down drops none either. It gives the same answers,
and its frontier is that of the other with every count cut down and, at every level, each thread at
its first place. -/
theorem answers_eq_exact (p : CompiledPattern) {calls : List Call}
    (h : p.exactMatcher.KeepsAll calls) :
    p.matcher.KeepsAll calls ∧
    p.matcher.answers calls = p.exactMatcher.answers calls ∧
    (p.matcher.after calls).frontier =
      ((p.exactMatcher.after calls).frontier.map (Thread.clamped p.graph)).eraseDups := by
  obtain ⟨hkeeps, hanswers, hafter⟩ := p.clampsTo_matcher.after h
  have hp : (p.exactMatcher.after calls).pattern = p := Matcher.after_pattern _ _
  refine ⟨hkeeps, hanswers, ?_⟩
  rw [hafter.frontier, hp]

end CompiledPattern

end

/-- Where all counts are told apart, two attempts that have read one and two literals are in the
middle of different repetitions. -/
theorem CompiledPattern.answers_eq_exact_repetition :
    ∃ p, ofElements [.repetition (.token ⟨none, [⟨"text", .text "a"⟩]⟩) .plus,
        .token ⟨none, [⟨"text", .text "b"⟩]⟩] "'a'+ 'b'" { maxThreads := 3 } = .ok p ∧
      let calls : List Call := [.add { text := "a" }, .add { text := "a" }]
      p.exactMatcher.KeepsAll calls ∧
      (p.exactMatcher.after calls).frontier =
        [.repetition 2 2 [.before 1], .before 0, .repetition 2 1 [.before 1]] ∧
      (p.matcher.after calls).frontier =
        ((p.exactMatcher.after calls).frontier.map (Thread.clamped p.graph)).eraseDups := by
  refine ⟨_, rfl, ?keeps, ?_, (answers_eq_exact _ ?keeps).2.2⟩
  case keeps =>
    refine ⟨Matcher.keeps_of_run_eq (show _ =
        { threads := [.repetition 2 1 [.before 1], .before 0], progressed := true } by cbv) ?_,
      Matcher.keeps_of_run_eq (show _ =
        { threads := [.repetition 2 2 [.before 1], .before 0, .repetition 2 1 [.before 1],
            .before 0], progressed := true } by cbv) ?_, trivial⟩ <;>
    · rw [Report.distinct_eq]
      decide
  · cbv

end Motif
