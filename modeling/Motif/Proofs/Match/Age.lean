import Mathlib
import Motif.Proofs.Match.Scope
import Motif.Regex.Standard

/-!
# Older attempts first (specification E1.3)

When there are too many threads, those of the newest attempts are dropped. To say so, each thread is
dated with the position where its attempt began: a thread is given the date of the one that it comes
from, and where it is reported more than once, the date of the first. The sentinel at the start has
the position zero, and tokens are counted from one.

The date of a thread is the oldest of all attempts it belongs to (`Labels.least`), and threads stand
in the order of their dates; so what there is no room for is no older than what is kept.

* `Labels.step`: a step keeps dates right, and threads in order.
* **`frontier_dated`**: what is dropped at any point of a run is no older than what is kept.
-/

namespace Motif

/-! ## Dated threads -/

/-- A thread and the position where its attempt began. -/
structure Dated where
  start : Nat
  thread : Thread
  deriving DecidableEq

namespace Dated

/-- Each thread once, with the date it first occurs with. -/
def firsts (ds : List Dated) : List Dated :=
  ds.eraseDupsBy (·.thread == ·.thread)

variable {d e : Dated} {ds : List Dated}

theorem firsts_cons : firsts (d :: ds) = d :: firsts (ds.filter (!·.thread == d.thread)) := by
  rw [firsts, List.eraseDupsBy_cons]
  congr 3
  funext e
  cases e.thread == d.thread <;> rfl

theorem firsts_sublist (ds : List Dated) : (firsts ds).Sublist ds := by
  induction ds using filter_induction (fun (d e : Dated) => !e.thread == d.thread) with
  | nil => exact List.Sublist.refl []
  | cons d ds ih =>
    rw [firsts_cons]
    exact (ih.trans List.filter_sublist).cons_cons d

theorem map_thread_firsts (ds : List Dated) :
    (firsts ds).map thread = (ds.map thread).eraseDups := by
  induction ds using filter_induction (fun (d e : Dated) => !e.thread == d.thread) with
  | nil => rfl
  | cons d ds ih =>
    rw [firsts_cons, List.map_cons, List.map_cons, List.eraseDups_cons, ih, List.filter_map]
    rfl

/-- Where dates are in order, the first of a thread is its oldest. -/
theorem start_le_of_mem_firsts (hs : ds.Pairwise (·.start ≤ ·.start)) (hd : d ∈ firsts ds)
    (he : e ∈ ds) (hde : e.thread = d.thread) : d.start ≤ e.start := by
  induction ds using filter_induction (fun (d e : Dated) => !e.thread == d.thread) with
  | nil => cases he
  | cons a ds ih =>
    obtain ⟨ha, hs⟩ := List.pairwise_cons.mp hs
    rw [firsts_cons, List.mem_cons] at hd
    rcases hd with rfl | hd
    · rcases List.mem_cons.mp he with rfl | he
      · exact Nat.le_refl _
      · exact ha e he
    · have hne : (!d.thread == a.thread) = true :=
        (List.mem_filter.mp ((firsts_sublist _).subset hd)).2
      refine ih (hs.sublist List.filter_sublist) hd (List.mem_filter.mpr ⟨?_, hde ▸ hne⟩)
      refine (List.mem_cons.mp he).resolve_left fun hea => ?_
      simp [← hde, hea] at hne

end Dated

/-- Which threads belong to the attempt that began at a position. -/
abbrev Tracked := Nat → Thread → Prop

/-- The threads of attempts that began before `now` are dated: in order, each with the oldest
attempt that it belongs to. -/
structure Labels (now : Nat) (tracked : Tracked) (ds : List Dated) : Prop where
  lt : ∀ k t, tracked k t → k < now
  dated : ∀ k t, tracked k t → ∃ d ∈ ds, d.thread = t
  least : ∀ d ∈ ds, IsLeast {k | tracked k d.thread} d.start
  sorted : ds.Pairwise (·.start ≤ ·.start)

section Labels

variable {now later : Nat} {tracked : Tracked} {ds : List Dated}

theorem labels_nil (h : ∀ k t, ¬tracked k t) : Labels now tracked [] where
  lt k t hk := absurd hk (h k t)
  dated k t hk := absurd hk (h k t)
  least := List.forall_mem_nil _
  sorted := .nil

theorem Labels.mono (h : Labels now tracked ds) (hle : now ≤ later) : Labels later tracked ds where
  lt k t hk := Nat.lt_of_lt_of_le (h.lt k t hk) hle
  dated := h.dated
  least := h.least
  sorted := h.sorted

/-- Where only the first threads are kept, and only those are tracked further, dates stay right. -/
theorem Labels.take (h : Labels now tracked ds) (n : Nat) :
    Labels now (fun k t => tracked k t ∧ t ∈ (ds.take n).map Dated.thread) (ds.take n) where
  lt k t hk := h.lt k t hk.1
  dated k t hk := List.mem_map.mp hk.2
  least d hd := by
    obtain ⟨htracked, hle⟩ := h.least d (List.mem_of_mem_take hd)
    exact ⟨⟨htracked, List.mem_map_of_mem hd⟩, fun k hk => hle hk.1⟩
  sorted := h.sorted.sublist (List.take_sublist _ _)

end Labels

/-- What is known of the attempts under way: the position of the next token, the dated threads of
the frontier, and which attempts these belong to. -/
structure History where
  now : Nat := 1
  dated : List Dated := []
  tracked : Tracked := fun _ _ => False

section

variable [RegexEngine]

namespace Graph

/-- What a dated thread goes on as: threads of the same date. -/
def advanceDated (g : Graph) (counting : Pattern.Counting) (sym : Symbol) (d : Dated) :
    List Dated :=
  (g.advance counting sym d.thread).threads.map (Dated.mk d.start)

/-- What is reported by dated threads, and by a new attempt that begins at the position `now`. -/
def reportedDated (g : Graph) (counting : Pattern.Counting) (now : Nat) (ds : List Dated)
    (sym : Symbol) : List Dated :=
  (ds ++ [Dated.mk now (.before g.entry)]).flatMap (g.advanceDated counting sym)

/-- A step of dated threads. -/
def stepDated (g : Graph) (counting : Pattern.Counting) (now : Nat) (ds : List Dated)
    (sym : Symbol) : List Dated :=
  Dated.firsts (g.reportedDated counting now ds sym)

/-- Which threads belong to an attempt after one more symbol, with a new attempt that begins at the
position `now`. -/
def stepTracked (g : Graph) (counting : Pattern.Counting) (now : Nat) (tracked : Tracked)
    (sym : Symbol) : Tracked := fun k t =>
  ∃ u, (tracked k u ∨ k = now ∧ u = .before g.entry) ∧ t ∈ (g.advance counting sym u).threads

end Graph

section Steps

variable {g : Graph} {counting : Pattern.Counting} {sym : Symbol} {now later : Nat}
  {tracked : Tracked} {ds : List Dated}

theorem mem_advanceDated {d e : Dated} : e ∈ g.advanceDated counting sym d ↔
    e.start = d.start ∧ e.thread ∈ (g.advance counting sym d.thread).threads := by
  rw [Graph.advanceDated, List.mem_map]
  constructor
  · rintro ⟨t, ht, rfl⟩
    exact ⟨rfl, ht⟩
  · rintro ⟨hs, ht⟩
    exact ⟨e.thread, ht, by rw [← hs]⟩

/-- What is reported is in order, since the new attempt comes last and has the last date. -/
theorem Labels.sorted_reported (h : Labels now tracked ds) (hle : now ≤ later) :
    (g.reportedDated counting later ds sym).Pairwise (·.start ≤ ·.start) := by
  have hnew : ∀ d ∈ ds, d.start ≤ later :=
    fun d hd => Nat.le_of_lt (Nat.lt_of_lt_of_le (h.lt _ _ (h.least d hd).1) hle)
  have hall : (ds ++ [Dated.mk later (.before g.entry)]).Pairwise (·.start ≤ ·.start) := by
    refine List.pairwise_append.mpr ⟨h.sorted, List.pairwise_singleton _ _, fun d hd e he => ?_⟩
    obtain rfl := List.mem_singleton.mp he
    exact hnew d hd
  refine List.pairwise_flatMap.mpr ⟨fun d _ => ?_, hall.imp fun hde e he f hf => ?_⟩
  · exact List.pairwise_map.mpr (List.pairwise_of_forall fun _ _ => Nat.le_refl _)
  · rw [(mem_advanceDated.mp he).1, (mem_advanceDated.mp hf).1]
    exact hde

/-- What is reported belongs to the attempt with its date. -/
theorem Labels.tracked_reported (h : Labels now tracked ds) {e : Dated}
    (he : e ∈ g.reportedDated counting later ds sym) :
    g.stepTracked counting later tracked sym e.start e.thread := by
  obtain ⟨d, hd, he⟩ := List.mem_flatMap.mp he
  obtain ⟨hstart, hthread⟩ := mem_advanceDated.mp he
  refine ⟨d.thread, ?_, hthread⟩
  rcases List.mem_append.mp hd with hd | hd
  · exact .inl (hstart ▸ (h.least d hd).1)
  · obtain rfl := List.mem_singleton.mp hd
    exact .inr ⟨hstart, rfl⟩

/-- What an attempt goes on as is reported with a date that is not later. -/
theorem Labels.exists_reported (h : Labels now tracked ds) {k : Nat} {t : Thread}
    (ht : g.stepTracked counting later tracked sym k t) :
    ∃ e ∈ g.reportedDated counting later ds sym, e.thread = t ∧ e.start ≤ k := by
  obtain ⟨u, hu | ⟨rfl, rfl⟩, ht⟩ := ht
  · obtain ⟨d, hd, rfl⟩ := h.dated k u hu
    refine ⟨⟨d.start, t⟩, List.mem_flatMap.mpr ⟨d, List.mem_append_left _ hd, ?_⟩, rfl, ?_⟩
    · exact mem_advanceDated.mpr ⟨rfl, ht⟩
    · exact (h.least d hd).2 hu
  · refine ⟨⟨k, t⟩, List.mem_flatMap.mpr ⟨⟨k, .before g.entry⟩, ?_, ?_⟩, rfl, Nat.le_refl _⟩
    · exact List.mem_append_right _ (List.mem_singleton.mpr rfl)
    · exact mem_advanceDated.mpr ⟨rfl, ht⟩

/-- **A step** keeps dates right, and threads in order. -/
theorem Labels.step (h : Labels now tracked ds) (hle : now ≤ later) :
    Labels (later + 1) (g.stepTracked counting later tracked sym)
      (g.stepDated counting later ds sym) where
  lt k t hk := by
    obtain ⟨u, hu | ⟨rfl, -⟩, -⟩ := hk
    · exact Nat.lt_succ_of_lt (Nat.lt_of_lt_of_le (h.lt k u hu) hle)
    · exact Nat.lt_succ_self k
  dated k t hk := by
    obtain ⟨e, he, rfl, -⟩ := h.exists_reported hk
    have hmem : e.thread ∈ (g.stepDated counting later ds sym).map Dated.thread := by
      rw [Graph.stepDated, Dated.map_thread_firsts, List.mem_eraseDups]
      exact List.mem_map_of_mem he
    exact List.mem_map.mp hmem
  least d hd := by
    refine ⟨h.tracked_reported ((Dated.firsts_sublist _).subset hd), fun k hk => ?_⟩
    obtain ⟨e, he, hed, hek⟩ := h.exists_reported hk
    exact (Dated.start_le_of_mem_firsts (h.sorted_reported hle) hd he hed).trans hek
  sorted := (h.sorted_reported hle).sublist (Dated.firsts_sublist _)

/-- Apart from their dates, dated threads make the steps that threads do. -/
theorem map_thread_stepDated : (g.stepDated counting now ds sym).map Dated.thread =
    (g.step counting (ds.map Dated.thread) sym).distinct := by
  have hadvance (d : Dated) : (g.advanceDated counting sym d).map Dated.thread =
      (g.advance counting sym d.thread).threads := by
    rw [Graph.advanceDated, List.map_map]
    exact List.map_id _
  have hseeds : ds.map Dated.thread ++ [.before g.entry] =
      (ds ++ [Dated.mk now (.before g.entry)]).map Dated.thread := by
    rw [List.map_append]
    rfl
  rw [Graph.stepDated, Dated.map_thread_firsts, Report.distinct_eq, Graph.step_eq_follow,
    Graph.follow_threads, hseeds, List.flatMap_map, Graph.reportedDated, List.map_flatMap]
  simp only [hadvance]

end Steps

/-! ## Runs of a matcher -/

namespace Matcher

/-- The dated threads that are fed the next symbol. -/
def primedDated (m : Matcher) (h : History) : List Dated :=
  if m.atStart && m.pattern.graph.hasStartAnchor then
    m.pattern.graph.stepDated m.counting 0 h.dated (.sentinel .start)
  else h.dated

/-- Which attempts the threads belong to that are fed the next symbol. -/
def primedTracked (m : Matcher) (h : History) : Tracked :=
  if m.atStart && m.pattern.graph.hasStartAnchor then
    m.pattern.graph.stepTracked m.counting 0 h.tracked (.sentinel .start)
  else h.tracked

/-- What is reported for a symbol, dated. -/
def runDated (m : Matcher) (h : History) (sym : Symbol) : List Dated :=
  m.pattern.graph.stepDated m.counting h.now (m.primedDated h) sym

/-- Which attempts the threads belong to that are reported for a symbol. -/
def runTracked (m : Matcher) (h : History) (sym : Symbol) : Tracked :=
  m.pattern.graph.stepTracked m.counting h.now (m.primedTracked h) sym

/-- What is known after a call. An attempt is tracked as long as a thread of it is in the
frontier. -/
def record (m : Matcher) (h : History) : Call → History
  | .add t =>
    if m.skips t then h
    else {
      now := h.now + 1
      dated := if (m.add t).1 then [] else (m.runDated h (.token t)).take m.limit
      tracked := fun k u => m.runTracked h (.token t) k u ∧ u ∈ (m.add t).2.frontier }
  | .finish => h
  | .reset => {}

/-- What is known after calls. -/
def recordFrom (m : Matcher) (h : History) : List Call → History
  | [] => h
  | c :: cs => (m.call c).2.recordFrom (m.record h c) cs

/-- What is known of the attempts of a matcher is right. -/
structure Records (m : Matcher) (h : History) : Prop where
  threads : h.dated.map Dated.thread = m.frontier
  labels : Labels h.now h.tracked h.dated
  pos : 0 < h.now
  start : m.atStart = true → h.dated = []

variable {m : Matcher} {h : History} {sym : Symbol}

theorem records_nil (m : Matcher) (hf : m.frontier = []) : m.Records {} where
  threads := hf.symm
  labels := labels_nil fun _ _ h => h
  pos := Nat.one_pos
  start _ := rfl

/-- At the start there are no threads, so what the sentinel leaves is older than any token. -/
theorem Records.primed (hm : m.Records h) :
    Labels h.now (m.primedTracked h) (m.primedDated h) := by
  rw [primedTracked, primedDated]
  split
  · rename_i hs
    have hnil : h.dated = [] := hm.start (Bool.and_elim_left hs)
    have hnone : ∀ k t, ¬h.tracked k t := by
      intro k t hk
      obtain ⟨d, hd, -⟩ := hm.labels.dated k t hk
      rw [hnil] at hd
      cases hd
    rw [hnil]
    exact ((labels_nil hnone).step (Nat.le_refl 0)).mono hm.pos
  · exact hm.labels

theorem Records.run (hm : m.Records h) :
    Labels (h.now + 1) (m.runTracked h sym) (m.runDated h sym) :=
  hm.primed.step (Nat.le_refl _)

theorem Records.map_thread_primedDated (hm : m.Records h) :
    (m.primedDated h).map Dated.thread = m.primed := by
  rw [primedDated, Matcher.primed]
  split
  · rw [map_thread_stepDated, hm.threads]
  · exact hm.threads

theorem Records.map_thread_runDated (hm : m.Records h) :
    (m.runDated h sym).map Dated.thread = (m.run sym).distinct := by
  rw [runDated, map_thread_stepDated, hm.map_thread_primedDated, run_eq]

/-- **A call** leaves what is known right. -/
theorem Records.call (hm : m.Records h) (c : Call) : (m.call c).2.Records (m.record h c) := by
  cases c with
  | finish => exact ⟨hm.threads, hm.labels, hm.pos, hm.start⟩
  | reset => exact records_nil _ rfl
  | add t =>
    rw [Matcher.call, record]
    rcases m.add_cases t with ⟨hs, ha⟩ | ⟨hs, -, ha⟩ | ⟨hs, -, ha⟩
    · rw [if_pos hs, ha]
      exact ⟨hm.threads, hm.labels, hm.pos, hm.start⟩
    · -- After a match the frontier is empty, so no attempt is tracked any longer.
      rw [if_neg (by simp [hs]), ha]
      exact {
        threads := rfl
        labels := labels_nil fun _ _ hk => List.not_mem_nil hk.2
        pos := Nat.succ_pos _
        start := fun h => absurd h Bool.false_ne_true }
    · rw [if_neg (by simp [hs]), ha]
      have hthreads : ((m.runDated h (.token t)).take m.limit).map Dated.thread =
          (m.run (.token t)).distinct.take m.limit := by
        rw [List.map_take, hm.map_thread_runDated]
      exact {
        threads := hthreads
        labels := hthreads ▸ hm.run.take m.limit
        pos := Nat.succ_pos _
        start := fun h => absurd h Bool.false_ne_true }

/-- **A run** leaves what is known right. -/
theorem Records.after (hm : m.Records h) (calls : List Call) :
    (m.after calls).Records (m.recordFrom h calls) := by
  induction calls generalizing m h with
  | nil => exact hm
  | cons c cs ih => exact ih (hm.call c)

end Matcher

/-- What is known of the attempts of a matcher after calls. -/
def CompiledPattern.history (p : CompiledPattern) (calls : List Call) : History :=
  p.matcher.recordFrom {} calls

/-- **What is dropped is no older than what is kept.** At any point of a run the threads of the
frontier can be dated, each with the oldest of the attempts under way that it belongs to, and stand
in the order of their dates. So does what is reported for a token; and of this the part for which
there is no room is no older than the part that is kept. -/
theorem CompiledPattern.frontier_dated (p : CompiledPattern) (calls : List Call) :
    let m := p.matcher.after calls
    let h := p.history calls
    h.dated.map Dated.thread = m.frontier ∧
    (∀ d ∈ h.dated, IsLeast {k | h.tracked k d.thread} d.start) ∧
    h.dated.Pairwise (·.start ≤ ·.start) ∧
    ∀ t, let r := m.runDated h (.token t)
      r.map Dated.thread = (m.run (.token t)).distinct ∧
      (∀ d ∈ r, IsLeast {k | m.runTracked h (.token t) k d.thread} d.start) ∧
      r.Pairwise (·.start ≤ ·.start) ∧
      (∀ kept ∈ r.take m.limit, ∀ dropped ∈ r.drop m.limit, kept.start ≤ dropped.start) ∧
      (m.skips t = false → (m.add t).1 = false →
        (m.add t).2.frontier = (r.take m.limit).map Dated.thread) := by
  intro m h
  have hm : m.Records h := (Matcher.records_nil p.matcher rfl).after calls
  refine ⟨hm.threads, hm.labels.least, hm.labels.sorted, fun t => ?_⟩
  intro r
  have hr : Labels (h.now + 1) (m.runTracked h (.token t)) r := hm.run
  refine ⟨hm.map_thread_runDated, hr.least, hr.sorted, ?_, ?_⟩
  · intro kept hkept dropped hdropped
    have hsplit : (r.take m.limit ++ r.drop m.limit).Pairwise (·.start ≤ ·.start) := by
      rw [List.take_append_drop]
      exact hr.sorted
    exact (List.pairwise_append.mp hsplit).2.2 kept hkept dropped hdropped
  · intro hs ha
    rw [Matcher.add_of_unmatched hs ha, List.map_take, hm.map_thread_runDated]

end

/-- Where there is room for one thread, it is that of the first attempt. -/
theorem CompiledPattern.frontier_dated_literals :
    ∃ p, CompiledPattern.ofElements [.token ⟨none, [⟨"text", .text "a"⟩]⟩,
        .token ⟨none, [⟨"text", .text "a"⟩]⟩, .token ⟨none, [⟨"text", .text "b"⟩]⟩] "'a' 'a' 'b'"
        { maxThreads := 1 } = .ok p ∧
      let m := p.matcher.after [.add { text := "a" }]
      let r := m.runDated (p.history [.add { text := "a" }]) (.token { text := "a" })
      r = [⟨1, .before 0⟩, ⟨2, .before 1⟩] ∧
      (m.add { text := "a" }).2.frontier = (r.take m.limit).map Dated.thread := by
  refine ⟨_, rfl, ?_, ?_⟩
  · cbv
  · exact ((frontier_dated _ _).2.2.2 _).2.2.2.2 rfl (by cbv)

end Motif
