import Motif.Proofs.Language.Graph
import Motif.Proofs.Match.Walk

/-!
# Meanings of threads

A thread means what may still be read on its way. What threads report for a symbol means what is
left of the threads once the symbol has been taken, however they are nested.

* `adequate_next`: the way in which a matcher counts repetitions tells apart all counts that make a
  difference.
* `Report.meaning_append`: reports one after the other are a choice.
* **`takes_walk`**, **`takes_advance`**: a node and a thread make of a symbol what their meanings
  make of it.
* **`takes_step`**: so does a step.
-/

namespace Motif

open Motif.Graph

/-! ## Counting -/

namespace Pattern

/-- A way of counting that tells apart whatever a span does. -/
def Counting.Adequate (counting : Counting) : Prop :=
  ∀ (s : Span) (c k : Nat), s.allowsMore (counting s c + k) = s.allowsMore (c + 1 + k) ∧
    s.isSatisfied (counting s c + k) = s.isSatisfied (c + 1 + k)

theorem adequate_next : Counting.Adequate Span.next := by
  intro s c k
  have hmin : s.min.toNat ≤ maxCount := Nat.le_of_lt_succ s.min.toNat_lt
  unfold Span.allowsMore Span.isSatisfied Span.next Span.clamp
  cases hm : s.max with
  | none =>
    refine ⟨rfl, ?_⟩
    simp only [Option.isSome_none, Bool.false_eq_true, if_false, decide_eq_decide]
    omega
  | some m =>
    have hmax : m.toNat ≤ maxCount := Nat.le_of_lt_succ m.toNat_lt
    simp only [Option.isSome_some, if_true, Option.all_some, decide_eq_decide]
    omega

end Pattern

theorem remaining_counting {counting : Pattern.Counting} (h : counting.Adequate) (s : Pattern.Span)
    (c k : Nat) (a : Meaning) : a.remaining s (counting s c + k) = a.remaining s (c + 1 + k) := by
  have hallows (j : Nat) :
      Meaning.Allows s (counting s c + k) j ↔ Meaning.Allows s (c + 1 + k) j := by
    refine forall₂_congr fun i _ => ?_
    rw [Nat.add_assoc, (h s c (k + i)).1, Nat.add_assoc (c + 1)]
  have hsat (j : Nat) : s.isSatisfied (counting s c + k + j) = s.isSatisfied (c + 1 + k + j) := by
    rw [Nat.add_assoc, (h s c (k + j)).2, Nat.add_assoc (c + 1)]
  ext w
  · show (∃ j, _ ∧ (s.isSatisfied _ = true ∨ _) ∧ _) ↔ ∃ j, _
    simp only [hallows, hsat]
  · show (∃ j, _ ∧ _) ↔ ∃ j, _
    simp only [hallows]

/-- Before something else there is only the progress of the first part, if it takes a symbol. -/
theorem singleton_mem_proper_mul {sym : Symbol} {a b : Meaning} :
    [sym] ∈ (a.proper * b).progress ↔ [sym] ∈ a.progress := by
  refine or_iff_left fun h => ?_
  exact Meaning.nil_notMem_mul b.nil_notMem (Meaning.cons_mem_proper_mul.mp h)

/-- A negation depends on the progress alone. -/
theorem negated_congr {a b : Meaning} (h : a.progress = b.progress) : a.negated = b.negated := by
  ext w
  · show a.Pursued w ∧ w ∉ a.progress ↔ b.Pursued w ∧ w ∉ b.progress
    rw [Meaning.Pursued, Meaning.Pursued, h]
  · show a.Pursued w ↔ b.Pursued w
    rw [Meaning.Pursued, Meaning.Pursued, h]

theorem proper_negated (a : Meaning) : a.negated.proper = a.negated := by
  refine Meaning.ext ?_ rfl
  ext w
  rw [Meaning.mem_proper, and_iff_right_iff_imp]
  rintro hw rfl
  exact a.not_pursued_nil hw.1

/-! ## Threads and reports -/

variable [RegexEngine]

/-- What may still be read on the way of a thread. In the middle of a repetition or a negation the
part under way has to take a symbol first. -/
def Thread.meaning (g : Graph) : Thread → Meaning
  | .before id => g.meaning id
  | .repetition id count threads =>
    let inner := (threads.map (meaning g)).sum
    match g.node? id with
    | some (.repetition body span next) =>
      inner.proper * ((g.meaning body).remaining span (count + 1) * continuing g.meaning next)
    | _ => 0
  | .negation id threads =>
    let inner := (threads.map (meaning g)).sum
    match g.node? id with
    | some (.negation _ next) => inner.negated * continuing g.meaning next
    | _ => 0

/-- What may still be read on the ways of several threads. -/
def threadsMeaning (g : Graph) (threads : List Thread) : Meaning :=
  (threads.map (Thread.meaning g)).sum

/-- What may still be read on the ways of the threads of a report, or nothing where it is
complete. -/
def Report.meaning (g : Graph) (r : Report) : Meaning :=
  (threadsMeaning g r.threads).proper + .emptyIf (r.completed = true)

variable {g : Graph}

theorem mem_threadsMeaning_accepted {threads : List Thread} {w : List Symbol} :
    w ∈ (threadsMeaning g threads).accepted ↔ ∃ t ∈ threads, w ∈ (t.meaning g).accepted := by
  unfold threadsMeaning
  induction threads with
  | nil => simp
  | cons t ts ih => simp [Language.mem_add, ih]

theorem mem_threadsMeaning_progress {threads : List Thread} {w : List Symbol} :
    w ∈ (threadsMeaning g threads).progress ↔ ∃ t ∈ threads, w ∈ (t.meaning g).progress := by
  unfold threadsMeaning
  induction threads with
  | nil => simp
  | cons t ts ih => simp [Language.mem_add, ih]

@[simp] theorem threadsMeaning_nil : threadsMeaning g [] = 0 := rfl

theorem threadsMeaning_append (ts us : List Thread) :
    threadsMeaning g (ts ++ us) = threadsMeaning g ts + threadsMeaning g us := by
  rw [threadsMeaning, List.map_append, List.sum_append]
  rfl

theorem threadsMeaning_singleton (t : Thread) : threadsMeaning g [t] = t.meaning g :=
  add_zero _

theorem threadsMeaning_eraseDups (ts : List Thread) :
    threadsMeaning g ts.eraseDups = threadsMeaning g ts := by
  ext w
  · simp only [mem_threadsMeaning_accepted, List.mem_eraseDups]
  · simp only [mem_threadsMeaning_progress, List.mem_eraseDups]

/-- Threads mean what they mean, however often they are reported. -/
theorem threadsMeaning_distinct (r : Report) :
    threadsMeaning g r.distinct = threadsMeaning g r.threads := by
  rw [Report.distinct_eq, threadsMeaning_eraseDups]

namespace Report

@[simp] theorem meaning_empty : (∅ : Report).meaning g = 0 := by
  show (0 : Meaning).proper + Meaning.emptyIf (false = true) = 0
  rw [Meaning.proper_zero, Meaning.emptyIf_of_false Bool.false_ne_true, add_zero]

/-- Reports one after the other are a choice. -/
theorem meaning_append (r s : Report) : (r ++ s).meaning g = r.meaning g + s.meaning g := by
  rw [meaning, append_threads, append_completed, threadsMeaning_append, Meaning.proper_add,
    Bool.or_eq_true, Meaning.emptyIf_or, meaning, meaning]
  exact add_add_add_comm ..

theorem meaning_thread (t : Thread) :
    ({ threads := [t] } : Report).meaning g = (t.meaning g).proper := by
  show (threadsMeaning g [t]).proper + Meaning.emptyIf (false = true) = _
  rw [threadsMeaning_singleton, Meaning.emptyIf_of_false Bool.false_ne_true, add_zero]

theorem meaning_ite (p : Prop) [Decidable p] (r : Report) :
    (if p then r else ∅).meaning g = Meaning.emptyIf p * r.meaning g := by
  rw [Meaning.emptyIf_mul]
  split
  · rfl
  · exact meaning_empty

/-- After a node may be read what comes after it. -/
theorem meaning_leave (next : Option Nat) :
    (g.leave next).meaning g = continuing g.meaning next := by
  cases next with
  | none =>
    show (0 : Meaning).proper + Meaning.emptyIf (true = true) = 1
    rw [Meaning.proper_zero, Meaning.emptyIf_of_true rfl, zero_add]
  | some id =>
    show (threadsMeaning g [.before id]).proper + Meaning.emptyIf (g.isNullable id = true) = _
    rw [threadsMeaning_singleton, Thread.meaning, isNullable_iff]
    exact Meaning.proper_add_emptyIf _

theorem nil_mem_meaning {r : Report} : [] ∈ (r.meaning g).accepted ↔ r.completed = true := by
  rw [meaning, Meaning.add_accepted, Language.mem_add, Meaning.mem_proper, Meaning.mem_emptyIf]
  simp

theorem meaning_progress (r : Report) :
    (r.meaning g).progress = (threadsMeaning g r.threads).progress :=
  add_zero _

end Report

theorem meaning_repetition {id body : Nat} {span : Pattern.Span} {next : Option Nat}
    (h : g.node? id = some (.repetition body span next)) (count : Nat) (ts : List Thread) :
    (Thread.repetition id count ts).meaning g = (threadsMeaning g ts).proper *
      ((g.meaning body).remaining span (count + 1) * continuing g.meaning next) := by
  rw [Thread.meaning, h]
  rfl

theorem meaning_repetition_of_forall_ne {id : Nat}
    (h : ∀ body span next, g.node? id ≠ some (.repetition body span next)) (count : Nat)
    (ts : List Thread) : (Thread.repetition id count ts).meaning g = 0 := by
  rw [Thread.meaning]
  split
  · rename_i hn
    exact absurd hn (h _ _ _)
  · rfl

theorem meaning_negation {id body : Nat} {next : Option Nat}
    (h : g.node? id = some (.negation body next)) (ts : List Thread) :
    (Thread.negation id ts).meaning g =
      (threadsMeaning g ts).negated * continuing g.meaning next := by
  rw [Thread.meaning, h]
  rfl

theorem meaning_negation_of_forall_ne {id : Nat}
    (h : ∀ body next, g.node? id ≠ some (.negation body next)) (ts : List Thread) :
    (Thread.negation id ts).meaning g = 0 := by
  rw [Thread.meaning]
  split
  · rename_i hn
    exact absurd hn (h _ _)
  · rfl

/-! ## Taking a symbol -/

/-- A report is what a meaning makes of a symbol: it means what is left, and says whether there was
progress. -/
structure Takes (g : Graph) (sym : Symbol) (r : Report) (a : Meaning) : Prop where
  left : r.meaning g = a.after sym
  progressed : r.progressed = true ↔ [sym] ∈ a.progress

variable {counting : Pattern.Counting} {sym : Symbol}

/-- A symbol completes what accepts it. -/
theorem Takes.completed {r : Report} {a : Meaning} (h : Takes g sym r a) :
    r.completed = true ↔ [sym] ∈ a.accepted := by
  rw [← Report.nil_mem_meaning (g := g), h.left, Meaning.mem_after_accepted]

theorem takes_empty : Takes g sym ∅ 0 where
  left := by rw [Report.meaning_empty, Meaning.after_zero]
  progressed := iff_of_false Bool.false_ne_true (Language.notMem_zero _)

/-- Nothing takes no symbol. -/
theorem takes_empty_one : Takes g sym ∅ 1 where
  left := by
    rw [Report.meaning_empty, ← Meaning.emptyIf_of_true trivial, Meaning.after_emptyIf]
  progressed := iff_of_false Bool.false_ne_true (Language.notMem_zero _)

theorem Takes.append {r s : Report} {a b : Meaning} (hr : Takes g sym r a) (hs : Takes g sym s b) :
    Takes g sym (r ++ s) (a + b) where
  left := by rw [Report.meaning_append, hr.left, hs.left, Meaning.after_add]
  progressed := by
    rw [Report.append_progressed, Bool.or_eq_true, hr.progressed, hs.progressed]
    exact Iff.rfl

theorem takes_join {α : Type} {f : α → Report} {m : α → Meaning} : ∀ {l : List α},
    (∀ i ∈ l, Takes g sym (f i) (m i)) →
      Takes g sym (.join (l.map f)) (l.map m).sum
  | [], _ => takes_empty
  | i :: _, h =>
    (h i List.mem_cons_self).append (takes_join fun j hj => h j (List.mem_cons_of_mem i hj))

/-- What follows a part is put behind what is left of the part. -/
theorem Takes.mul {r s : Report} {a b : Meaning} (h : Takes g sym r a)
    (hs : s.meaning g = r.meaning g * b) (hp : s.progressed = r.progressed) :
    Takes g sym s (a.proper * b) where
  left := by rw [hs, h.left, Meaning.after_proper_mul]
  progressed := by rw [hp, h.progressed, singleton_mem_proper_mul]

theorem takes_stepIf {accepted : Bool} {p : Symbol → Prop} (h : accepted = true ↔ p sym)
    (next : Option Nat) :
    Takes g sym (g.stepIf accepted next) (.symbols p * continuing g.meaning next) := by
  have hproper : (Meaning.symbols p).proper = .symbols p := by
    refine Meaning.ext ?_ rfl
    ext w
    rw [Meaning.mem_proper, and_iff_right_iff_imp]
    rintro hw rfl
    exact Meaning.nil_notMem_symbols p hw
  rw [← hproper]
  constructor
  · rw [Meaning.after_proper_mul, Meaning.after_symbols, stepIf, Report.meaning_ite, h]
    exact congrArg _ (Report.meaning_leave next)
  · have hprogress : [sym] ∈ (Meaning.symbols p).progress ↔ p sym := by
      constructor
      · rintro ⟨x, hx, hw⟩
        obtain ⟨rfl, -⟩ := List.cons_eq_cons.mp hw
        exact hx
      · intro hp
        exact ⟨sym, hp, rfl⟩
    rw [singleton_mem_proper_mul, hprogress, ← h, stepIf]
    cases accepted <;> simp

section Repetition

variable {id body : Nat} {span : Pattern.Span} {next : Option Nat}

/-- A repetition under way goes on with the threads that it has left. -/
theorem meaning_running (hn : g.node? id = some (.repetition body span next)) (count : Nat)
    (inner : Report) :
    (if inner.distinct.isEmpty then (∅ : Report)
      else { threads := [.repetition id count inner.distinct] }).meaning g =
        (threadsMeaning g inner.threads).proper *
          ((g.meaning body).remaining span (count + 1) * continuing g.meaning next) := by
  split
  · rename_i he
    rw [Report.meaning_empty, ← threadsMeaning_distinct, List.isEmpty_iff.mp he,
      threadsMeaning_nil, Meaning.proper_zero, Meaning.zero_mul]
  · rw [Report.meaning_thread, meaning_repetition hn, Meaning.proper_proper_mul,
      threadsMeaning_distinct]

/-- With `count` repetitions complete there may be a further one, or what comes after. -/
theorem meaning_counted (hn : g.node? id = some (.repetition body span next)) (count : Nat) :
    ((if span.allowsMore count then
        ({ threads := [.repetition id count [.before body]] } : Report) else ∅) ++
      if span.isSatisfied count || g.isNullable body then g.leave next else ∅).meaning g =
        (g.meaning body).remaining span count * continuing g.meaning next := by
  rw [Report.meaning_append, Report.meaning_ite, Report.meaning_ite, Report.meaning_leave,
    Report.meaning_thread, meaning_repetition hn, Meaning.proper_proper_mul,
    threadsMeaning_singleton, Thread.meaning, Meaning.remaining_eq span count, Meaning.add_mul,
    mul_assoc, mul_assoc, add_comm, Bool.or_eq_true, isNullable_iff]

/-- **A repetition** with the threads of the one under way makes of a symbol what is left of that
one, of those that may follow, and of what comes after. -/
theorem takes_stepRepetition (hc : counting.Adequate)
    (hn : g.node? id = some (.repetition body span next)) (count : Nat) {inner : Report}
    {a : Meaning} (h : Takes g sym inner a) :
    Takes g sym (g.stepRepetition counting id body span next count inner)
      (a.proper *
        ((g.meaning body).remaining span (count + 1) * continuing g.meaning next)) := by
  have hinner : inner.meaning g =
      (threadsMeaning g inner.threads).proper + .emptyIf (inner.completed = true) := rfl
  refine h.mul ?_ rfl
  show (_ ++ _ : Report).meaning g = _
  rw [Report.meaning_append, meaning_running hn, Report.meaning_ite, meaning_counted hn,
    ← Nat.add_zero (counting span count), remaining_counting hc, Nat.add_zero, hinner,
    Meaning.add_mul]

end Repetition

/-- **A negation** makes of a symbol what is left of it, as long as its threads are the ways of what
it negates. -/
theorem takes_stepNegation {id body : Nat} {next : Option Nat}
    (hn : g.node? id = some (.negation body next)) {inner : Report} {a : Meaning}
    (h : Takes g sym inner a) :
    Takes g sym (g.stepNegation id next sym inner)
      (a.negated * continuing g.meaning next) := by
  rw [← proper_negated]
  cases sym with
  | sentinel s =>
    constructor
    · rw [Meaning.after_proper_mul, Meaning.after_negated_sentinel, Meaning.zero_mul]
      exact Report.meaning_empty
    · rw [singleton_mem_proper_mul]
      refine iff_of_false Bool.false_ne_true fun hp => ?_
      obtain ⟨t, ht⟩ := Meaning.pursued_singleton.mp hp
      cases ht
  | token t =>
    have hprogress : [Symbol.token t] ∈ a.negated.progress :=
      Meaning.pursued_singleton.mpr ⟨t, rfl⟩
    constructor
    · rw [Meaning.after_proper_mul]
      show (if inner.progressed = true then _ else _ : Report).meaning g = _
      split
      · rename_i hp
        rw [Meaning.after_negated_of_progress (h.progressed.mp hp), ← h.left]
        show ({ threads := [.negation id inner.distinct] } : Report).meaning g = _
        rw [Report.meaning_thread, meaning_negation hn, ← proper_negated,
          Meaning.proper_proper_mul, proper_negated, threadsMeaning_distinct,
          negated_congr inner.meaning_progress.symm]
      · rename_i hp
        rw [Meaning.after_negated_of_not_progress fun h' => hp (h.progressed.mpr h'), one_mul]
        exact Report.meaning_leave next
    · rw [singleton_mem_proper_mul]
      refine iff_of_true ?_ hprogress
      show (if inner.progressed = true then _ else _ : Report).progressed = true
      split <;> rfl

/-! ## Walks, threads and steps -/

theorem isSatisfied_zero_or_nil_mem {span : Pattern.Span} {body : Nat} :
    (span.min == 0 || g.isNullable body) = true ↔
      (span.isSatisfied 0 = true ∨ [] ∈ (g.meaning body).accepted) := by
  rw [Bool.or_eq_true, isNullable_iff, beq_iff_eq, Pattern.Span.isSatisfied, decide_eq_true_iff,
    Nat.le_zero, toNat_eq_zero]

/-- What comes after a repetition is tried with the same symbol if the repetition may be skipped. -/
theorem takes_skipped (span : Pattern.Span) (body : Nat) {next : Option Nat}
    (h : ∀ l ∈ next, Takes g sym (g.walk counting sym [l]) (g.meaning l)) :
    Takes g sym
      (.join ((if span.min == 0 || g.isNullable body then next.toList else []).map fun l =>
        g.walk counting sym [l]))
      (.emptyIf (span.isSatisfied 0 ∨ [] ∈ (g.meaning body).accepted) *
        continuing g.meaning next) := by
  rw [← isSatisfied_zero_or_nil_mem]
  split
  · rename_i hs
    rw [Meaning.emptyIf_of_true hs, one_mul]
    cases next with
    | none => exact takes_empty_one
    | some l => simpa [continuing] using h l rfl
  · rename_i hs
    rw [Meaning.emptyIf_of_false hs, Meaning.zero_mul]
    exact takes_empty

/-- **What a node reports** is what its meaning makes of the symbol. -/
theorem takes_walk (hc : counting.Adequate) (id : Nat) :
    Takes g sym (g.walk counting sym [id]) (g.meaning id) := by
  induction id using Nat.strong_induction_on with
  | _ id ih =>
    cases hn : g.node? id with
    | none =>
      rw [walk_single_of_none hn, meaning_of_node?_none hn]
      exact takes_empty
    | some n =>
      have hpart : ∀ l ∈ n.parts, Takes g sym (g.walk counting sym [l]) (g.meaning l) :=
        fun l hl => ih l (link_lt hn (List.mem_append_left _ hl))
      have hpushed : Takes g sym (.join ((n.pushed g).map fun l => g.walk counting sym [l]))
          ((n.pushed g).map g.meaning).sum :=
        takes_join fun l hl => ih l (link_lt hn ((n.pushed_sublist g).subset hl))
      rw [walk_single hn, Graph.meaning_eq hn]
      cases n with
      | atom a next =>
        rw [Node.pushed, List.map_nil, Report.join_nil, Report.append_empty]
        refine takes_stepIf ?_ next
        cases sym <;> simp [takesToken]
      | anchor s next =>
        rw [Node.pushed, List.map_nil, Report.join_nil, Report.append_empty]
        exact takes_stepIf (by simp) next
      | sequence head exit =>
        rw [Node.own, Report.empty_append]
        simpa [Node.pushed, Node.meaning] using hpushed
      | alternation branches exit =>
        rw [Node.own, Report.empty_append]
        exact hpushed
      | repetition body span next =>
        have hskipped := takes_skipped span body fun l hl =>
          ih l (link_lt hn (List.mem_append_right _ (Option.mem_toList.mpr hl)))
        rw [Node.meaning, Meaning.begun, Meaning.add_mul, add_comm, mul_assoc]
        exact (takes_stepRepetition hc hn 0 (hpart body List.mem_cons_self)).append hskipped
      | negation body next =>
        rw [Node.pushed, List.map_nil, Report.join_nil, Report.append_empty]
        exact takes_stepNegation hn (hpart body List.mem_cons_self)

/-- **What a thread reports** is what its meaning makes of the symbol, however it is nested. -/
theorem takes_advance (hc : counting.Adequate) (t : Thread) :
    Takes g sym (g.advance counting sym t) (t.meaning g) := by
  fun_induction Graph.advance g counting sym t with
  | case1 id =>
    rw [Thread.meaning]
    exact takes_walk hc id
  | case2 id count threads body span next hn ih =>
    rw [← advance, advance_repetition hn, meaning_repetition hn]
    exact takes_stepRepetition hc hn count (takes_join ih)
  | case3 id count threads hn ih =>
    rw [← advance, advance_repetition_of_forall_ne hn, meaning_repetition_of_forall_ne hn]
    exact takes_empty
  | case4 id threads body next hn ih =>
    rw [← advance, advance_negation hn, meaning_negation hn]
    exact takes_stepNegation hn (takes_join ih)
  | case5 id threads hn ih =>
    rw [← advance, advance_negation_of_forall_ne hn, meaning_negation_of_forall_ne hn]
    exact takes_empty

/-- **What a step reports** is what the threads and the whole pattern make of the symbol. -/
theorem takes_step (hc : counting.Adequate) (threads : List Thread) :
    Takes g sym (g.step counting threads sym)
      (threadsMeaning g threads + g.meaning g.entry) := by
  have h : Takes g sym (g.step counting threads sym)
      (threadsMeaning g (threads ++ [.before g.entry])) :=
    takes_join fun t _ => takes_advance hc t
  rwa [threadsMeaning_append, threadsMeaning_singleton, Thread.meaning] at h

end Motif
