import Mathlib
import Motif.Proofs.Match.Calls
import Motif.Regex.Standard

/-!
# Attempts side by side (specification §4.7, E4)

A matcher follows all attempts at once: their threads stand in one list, in which no thread stands
twice. Followed alone, an attempt begins with the entry of the pattern and is fed the symbols from
its own first one on. Attempts do not disturb each other: the list of the matcher is what the lists
of the lone attempts are after one another, the oldest first, with each thread at its first place.

Out of scope: runs in which threads are dropped (see `Motif.Proofs.Match.Age`) or an attempt is
complete before the last token, which ends all others.

* `eraseDups_flatMap_eraseDups`: where only first places count, repetitions may be removed early.
* `step_pooled`: a step of all attempts is a step of each.
* **`add_eq_true_iff_attempts`**: what a matcher answers, and what it holds afterwards.
-/

namespace Motif

/-! ## First places -/

section FirstPlaces

variable {α β γ : Type} [BEq β] [LawfulBEq β]

theorem flatMap_filter_of_eq_nil [BEq α] [LawfulBEq α] {a : α} {f : α → List γ} (h : f a = [])
    (as : List α) : (as.filter (!· == a)).flatMap f = as.flatMap f := by
  induction as with
  | nil => rfl
  | cons b as ih =>
    by_cases hb : b = a
    · rw [List.filter_cons_of_neg (by simp [hb]), ih, List.flatMap_cons, hb, h, List.nil_append]
    · rw [List.filter_cons_of_pos (by simp [hb]), List.flatMap_cons, ih, List.flatMap_cons]

/-- Lists by what is left of them when their first element is taken away. -/
theorem filter_induction (p : α → α → Bool) {motive : List α → Prop} (nil : motive [])
    (cons : ∀ a as, motive (as.filter (p a)) → motive (a :: as)) (as : List α) : motive as := by
  induction h : as.length using Nat.strongRecOn generalizing as with
  | ind n ih =>
    subst h
    cases as with
    | nil => exact nil
    | cons a as =>
      exact cons a as (ih _ (Nat.lt_succ_of_le (List.length_filter_le _ as)) _ rfl)

/-- **First places among the images** of a list do not depend on repetitions in it. -/
theorem eraseDups_flatMap_eraseDups [BEq α] [LawfulBEq α] (f : α → List β) (as : List α) :
    (as.eraseDups.flatMap f).eraseDups = (as.flatMap f).eraseDups := by
  induction as using filter_induction (fun (a b : α) => !b == a) generalizing f with
  | nil => rfl
  | cons a as ih =>
    have hnil : (f a).filter (!List.elem · (f a)) = [] := by simp
    rw [List.eraseDups_cons, List.flatMap_cons, List.flatMap_cons, List.eraseDups_append,
      List.eraseDups_append, List.removeAll, List.removeAll, List.filter_flatMap,
      List.filter_flatMap, ih,
      flatMap_filter_of_eq_nil (f := fun b => (f b).filter (!List.elem · (f a))) hnil]

theorem nodup_eraseDups (as : List β) : as.eraseDups.Nodup := by
  induction as using filter_induction (fun (a b : β) => !b == a) with
  | nil => exact List.nodup_nil
  | cons a as ih =>
    rw [List.eraseDups_cons, List.nodup_cons]
    exact ⟨by simp, ih⟩

@[simp] theorem eraseDups_eraseDups (as : List β) : as.eraseDups.eraseDups = as.eraseDups := by
  simpa using eraseDups_flatMap_eraseDups (fun a => [a]) as

theorem eraseDups_filter_congr {as bs : List β} (h : as.eraseDups = bs.eraseDups) (p : β → Bool) :
    (as.filter p).eraseDups = (bs.filter p).eraseDups := by
  have hfilter (cs : List β) : cs.filter p = cs.flatMap fun c => if p c then [c] else [] := by
    induction cs with
    | nil => rfl
    | cons c cs ih =>
      rw [List.flatMap_cons, List.filter_cons, ih]
      split <;> rfl
  rw [hfilter, hfilter, ← eraseDups_flatMap_eraseDups, h, eraseDups_flatMap_eraseDups]

theorem eraseDups_append_congr {as as' bs bs' : List β} (ha : as.eraseDups = as'.eraseDups)
    (hb : bs.eraseDups = bs'.eraseDups) : (as ++ bs).eraseDups = (as' ++ bs').eraseDups := by
  have hmem : ∀ a, as.contains a = as'.contains a := by
    intro a
    rw [Bool.eq_iff_iff, List.contains_iff_mem, List.contains_iff_mem, ← List.mem_eraseDups, ha,
      List.mem_eraseDups]
  rw [List.eraseDups_append, List.eraseDups_append, ha, List.removeAll, List.removeAll,
    eraseDups_filter_congr hb]
  simp only [hmem]

theorem eraseDups_flatMap_congr {f f' : α → List β} (h : ∀ a, (f a).eraseDups = (f' a).eraseDups)
    (as : List α) : (as.flatMap f).eraseDups = (as.flatMap f').eraseDups := by
  induction as with
  | nil => rfl
  | cons a as ih =>
    rw [List.flatMap_cons, List.flatMap_cons]
    exact eraseDups_append_congr (h a) ih

end FirstPlaces

/-! ## Lone attempts -/

section

variable [RegexEngine]

namespace Graph

variable {g : Graph} {counting : Pattern.Counting} {x : Symbol} {s : List Symbol}

/-- What threads report, without a new attempt. -/
def follow (g : Graph) (counting : Pattern.Counting) (threads : List Thread) (sym : Symbol) :
    Report :=
  .join (threads.map (g.advance counting sym))

/-- What a lone attempt reports for the last of the symbols that it is fed. -/
def attempt (g : Graph) (counting : Pattern.Counting) (s : List Symbol) : Report :=
  s.foldl (fun r x => g.follow counting r.distinct x) { threads := [.before g.entry] }

/-- What the lone attempts report that begin with each of the symbols, the oldest first. -/
def attempts (g : Graph) (counting : Pattern.Counting) : List Symbol → List Report
  | [] => []
  | x :: s => g.attempt counting (x :: s) :: g.attempts counting s

/-- The threads of lone attempts one after the other, each at its first place. -/
def pooled (rs : List Report) : List Thread :=
  (rs.flatMap Report.distinct).eraseDups

theorem follow_threads (threads : List Thread) :
    (g.follow counting threads x).threads =
      threads.flatMap fun t => (g.advance counting x t).threads := by
  rw [follow, Report.join_threads, List.flatMap_map]

theorem follow_completed (threads : List Thread) :
    (g.follow counting threads x).completed = true ↔
      ∃ t ∈ threads, (g.advance counting x t).completed = true := by
  unfold follow
  induction threads with
  | nil => simp
  | cons t ts ih => simp [ih]

theorem step_eq_follow (threads : List Thread) :
    g.step counting threads x = g.follow counting (threads ++ [.before g.entry]) x := rfl

theorem attempt_concat : g.attempt counting (s ++ [x]) =
    g.follow counting (g.attempt counting s).distinct x := by
  rw [attempt, List.foldl_append]
  rfl

/-- With a symbol every attempt goes on, and a new one begins. -/
theorem attempts_concat : g.attempts counting (s ++ [x]) =
    (g.attempts counting s).map (g.follow counting ·.distinct x) ++
      [g.follow counting [.before g.entry] x] := by
  induction s with
  | nil =>
    show [g.follow counting (Report.distinct _) x] = _
    rw [Report.distinct_singleton]
    rfl
  | cons y s ih =>
    show g.attempt counting ((y :: s) ++ [x]) :: g.attempts counting (s ++ [x]) = _
    rw [ih, attempt_concat]
    rfl

/-- **A step of all attempts** completes one of them iff one is completed alone. -/
theorem step_pooled_completed (rs : List Report) :
    (g.step counting (pooled rs) x).completed = true ↔
      ∃ r ∈ rs.map (g.follow counting ·.distinct x) ++ [g.follow counting [.before g.entry] x],
        r.completed = true := by
  rw [step_eq_follow, follow_completed]
  simp only [List.mem_append, List.mem_map, List.mem_singleton, pooled, List.mem_eraseDups,
    List.mem_flatMap]
  constructor
  · rintro ⟨t, ⟨r, hr, ht⟩ | rfl, hc⟩
    · exact ⟨_, .inl ⟨r, hr, rfl⟩, (follow_completed _).mpr ⟨t, ht, hc⟩⟩
    · exact ⟨_, .inr rfl, (follow_completed _).mpr ⟨_, List.mem_singleton.mpr rfl, hc⟩⟩
  · rintro ⟨_, ⟨r, hr, rfl⟩ | rfl, hc⟩
    · obtain ⟨t, ht, hc⟩ := (follow_completed _).mp hc
      exact ⟨t, .inl ⟨r, hr, ht⟩, hc⟩
    · obtain ⟨t, ht, hc⟩ := (follow_completed _).mp hc
      exact ⟨t, .inr (List.mem_singleton.mp ht), hc⟩

/-- **A step of all attempts** is a step of each, and then the new one. -/
theorem step_pooled (rs : List Report) :
    (g.step counting (pooled rs) x).distinct =
      pooled (rs.map (g.follow counting ·.distinct x) ++
        [g.follow counting [.before g.entry] x]) := by
  rw [Report.distinct_eq, step_eq_follow, follow_threads, List.flatMap_append, pooled, pooled,
    List.flatMap_append, List.flatMap_map]
  refine eraseDups_append_congr ?_ ?_
  · rw [eraseDups_flatMap_eraseDups, List.flatMap_assoc]
    refine eraseDups_flatMap_congr (fun r => ?_) rs
    rw [Report.distinct_eq (g.follow _ _ _), eraseDups_eraseDups, follow_threads]
  · rw [List.flatMap_singleton, List.flatMap_singleton, Report.distinct_eq, eraseDups_eraseDups,
      follow_threads, List.flatMap_singleton]

end Graph

/-! ## Runs that begin without attempts -/

namespace Matcher

open Motif.Graph

/-- A run begins with the matcher: it is `fresh` where nothing was read yet, else the last token was
taken as a match. -/
inductive Begins : (fresh : Bool) → Matcher → Prop
  | start (p : CompiledPattern) : Begins true p.matcher
  | reset (m : Matcher) : Begins true m.reset
  | matched {m : Matcher} {t : Token} : (m.add t).1 = true → Begins false (m.add t).2

/-- The symbols of a run with these tokens. A fresh run begins with the sentinel if the pattern asks
for it. -/
def symbols (m : Matcher) (fresh : Bool) (ts : List Token) : List Symbol :=
  (if fresh && m.pattern.graph.hasStartAnchor then [.sentinel .start] else []) ++ ts.map .token

variable {m : Matcher} {fresh : Bool} {s : List Symbol} {t : Token}

theorem Begins.frontier_eq (h : m.Begins fresh) : m.frontier = [] := by
  cases h with
  | start | reset => rfl
  | matched h => rw [(add_of_matched h).2.2]

theorem Begins.atStart_eq (h : m.Begins fresh) : m.atStart = fresh := by
  cases h with
  | start | reset => rfl
  | matched h => rw [(add_of_matched h).2.2]

/-- The threads of a matcher are those of the lone attempts on the symbols `s`. -/
def Follows (m : Matcher) (s : List Symbol) : Prop :=
  m.primed = pooled (m.pattern.graph.attempts m.counting s)

theorem Begins.follows (h : m.Begins fresh) : m.Follows (m.symbols fresh []) := by
  have hnil : m.pattern.graph.step m.counting [] (.sentinel .start) =
      m.pattern.graph.step m.counting (pooled []) (.sentinel .start) := rfl
  rw [Follows, primed, symbols, h.frontier_eq, h.atStart_eq, List.map_nil, List.append_nil]
  split
  · rw [hnil, step_pooled]
    exact congrArg pooled (attempts_concat (s := [])).symm
  · rfl

/-- **What a token makes of a matcher** that follows its attempts. -/
theorem Follows.run_completed (h : m.Follows s) :
    (m.run (.token t)).completed = true ↔
      ∃ r ∈ m.pattern.graph.attempts m.counting (s ++ [.token t]), r.completed = true := by
  rw [run_eq, h, step_pooled_completed, ← attempts_concat]

theorem Follows.run_distinct (h : m.Follows s) :
    (m.run (.token t)).distinct =
      pooled (m.pattern.graph.attempts m.counting (s ++ [.token t])) := by
  rw [run_eq, h, step_pooled, ← attempts_concat]

/-- A matcher that has dropped no thread holds those of the lone attempts. -/
theorem Follows.frontier_eq (h : m.Follows s) (hs : m.skips t = false)
    (ha : (m.add t).1 = false) (hk : m.Keeps (.add t)) :
    (m.add t).2.frontier = pooled (m.pattern.graph.attempts m.counting (s ++ [.token t])) := by
  have hle := hk hs ha
  rw [add_of_unmatched hs ha]
  exact (List.take_of_length_le hle).trans h.run_distinct

theorem Follows.add (h : m.Follows s) (hs : m.skips t = false) (ha : (m.add t).1 = false)
    (hk : m.Keeps (.add t)) : (m.add t).2.Follows (s ++ [.token t]) := by
  have hstart : (m.add t).2.atStart = false := by
    rw [add_of_unmatched hs ha]
  rw [Follows, primed, hstart, Bool.false_and, if_neg Bool.false_ne_true,
    h.frontier_eq hs ha hk]
  have hp : (m.add t).2.pattern = m.pattern := m.call_pattern (.add t)
  have hc : (m.add t).2.counting = m.counting := m.call_counting (.add t)
  rw [hp, hc]

theorem Follows.after {ts : List Token} (h : m.Follows s) (hs : ∀ u ∈ ts, m.skips u = false)
    (ha : ∀ b ∈ m.answers (ts.map .add), b = false) (hk : m.KeepsAll (ts.map .add)) :
    (m.after (ts.map .add)).Follows (s ++ ts.map .token) := by
  induction ts generalizing m s with
  | nil => simpa using h
  | cons u ts ih =>
    have hadd : (m.add u).2.Follows (s ++ [.token u]) :=
      h.add (hs u List.mem_cons_self) (ha _ List.mem_cons_self) hk.1
    have hskips : ∀ v ∈ ts, (m.add u).2.skips v = false := by
      intro v hv
      have hp : (m.add u).2.pattern = m.pattern := m.call_pattern (.add u)
      exact (skips_congr (by rw [hp]) v).trans (hs v (List.mem_cons_of_mem u hv))
    have hrest := ih hadd hskips (fun b hb => ha b (List.mem_cons_of_mem _ hb)) hk.2
    rwa [List.append_assoc] at hrest

/-- **Attempts do not disturb each other.** In a run of tokens none of which is passed over, and in
which nothing is dropped, let no token before the last be a match. Then the last is one iff it
completes a lone attempt, and if it is not, the frontier holds the threads of the lone attempts, the
oldest first, each thread at its first place. -/
theorem add_eq_true_iff_attempts {ts : List Token} (hm : m.Begins fresh)
    (hs : ∀ u ∈ ts ++ [t], m.skips u = false) (ha : ∀ b ∈ m.answers (ts.map .add), b = false)
    (hk : m.KeepsAll ((ts ++ [t]).map .add)) :
    (((m.after (ts.map .add)).add t).1 = true ↔
      ∃ r ∈ m.pattern.graph.attempts m.counting (m.symbols fresh (ts ++ [t])),
        r.completed = true) ∧
    (((m.after (ts.map .add)).add t).1 = false →
      ((m.after (ts.map .add)).add t).2.frontier =
        ((m.pattern.graph.attempts m.counting (m.symbols fresh (ts ++ [t]))).flatMap
          Report.distinct).eraseDups) := by
  rw [List.map_append, keepsAll_append] at hk
  have hf := hm.follows.after (fun u hu => hs u (List.mem_append_left _ hu)) ha hk.1
  have hpat : (m.after (ts.map .add)).pattern = m.pattern := after_pattern _ _
  have hcount : (m.after (ts.map .add)).counting = m.counting := after_counting _ _
  have hst : (m.after (ts.map .add)).skips t = false :=
    (skips_congr (by rw [hpat]) t).trans (hs t (by simp))
  have hsym : m.symbols fresh [] ++ ts.map .token ++ [.token t] = m.symbols fresh (ts ++ [t]) := by
    simp [symbols]
  rw [← hsym, ← hpat, ← hcount]
  refine ⟨?_, fun hfalse => hf.frontier_eq hst hfalse hk.2.1⟩
  rw [add_fst_of_not_skips hst]
  exact hf.run_completed

end Matcher

end

/-- The second of two literals completes the attempt that the first began. -/
theorem Matcher.add_eq_true_iff_attempts_literals :
    ∃ p, CompiledPattern.ofElements [.token ⟨none, [⟨"text", .text "a"⟩]⟩,
        .token ⟨none, [⟨"text", .text "b"⟩]⟩] "'a' 'b'" {} = .ok p ∧
      (((p.matcher.after [.add { text := "a" }]).add { text := "b" }).1 = true ↔
        ∃ r ∈ p.graph.attempts Pattern.Span.next
          (p.matcher.symbols true [{ text := "a" }, { text := "b" }]), r.completed = true) := by
  refine ⟨_, rfl, (@Matcher.add_eq_true_iff_attempts _ _ _ { text := "b" } [{ text := "a" }]
    (.start _) ?_ ?_ ?_).1⟩
  · exact List.forall_mem_cons.mpr ⟨rfl, List.forall_mem_singleton.mpr rfl⟩
  · exact List.forall_mem_singleton.mpr (by cbv)
  · refine ⟨Matcher.keeps_of_run_eq
        (show _ = { threads := [.before 0], progressed := true } by cbv) ?_,
      Matcher.keeps_of_run_eq (show _ = { completed := true, progressed := true } by cbv) ?_,
      trivial⟩
    · rw [Report.distinct_eq]
      decide
    · decide

end Motif
