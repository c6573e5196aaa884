import Motif.Match.Thread
import Std.Data.HashSet

/-!
# Reports (specification §4.4, E4)

What a thread makes of a symbol: the threads it goes on as, in order, whether its scope is complete
with this symbol, and whether the symbol made any difference to it. Reports of several threads are
joined in the order of the threads.

A report is what `Successors` collects, and what `advance` returns beside them.

* `distinct_eq`: of threads that are reported more than once the first occurrence counts.
-/

namespace Motif

/-- What becomes of threads with a symbol. -/
structure Report where
  threads : List Thread := []
  completed : Bool := false
  progressed : Bool := false
  deriving DecidableEq

namespace Report

instance : EmptyCollection Report := ⟨{}⟩

/-- Two reports, one after the other. -/
protected def append (a b : Report) : Report where
  threads := a.threads ++ b.threads
  completed := a.completed || b.completed
  progressed := a.progressed || b.progressed

instance : Append Report := ⟨Report.append⟩

/-- Reports one after the other. -/
def join (rs : List Report) : Report :=
  rs.foldr (· ++ ·) ∅

/-- The threads of a list that have not been seen, each at its first place. -/
def unseen (seen : Std.HashSet Thread) : List Thread → List Thread
  | [] => []
  | t :: ts => if seen.contains t then unseen seen ts else t :: unseen (seen.insert t) ts

/-- The threads of a report, each once, at the place where it is first reported. -/
def distinct (r : Report) : List Thread :=
  unseen ∅ r.threads

@[simp] theorem append_threads (a b : Report) : (a ++ b).threads = a.threads ++ b.threads := rfl

@[simp] theorem append_completed (a b : Report) :
    (a ++ b).completed = (a.completed || b.completed) := rfl

@[simp] theorem append_progressed (a b : Report) :
    (a ++ b).progressed = (a.progressed || b.progressed) := rfl

@[simp] theorem empty_append (r : Report) : ∅ ++ r = r := by
  cases r; rfl

@[simp] theorem append_empty (r : Report) : r ++ ∅ = r := by
  obtain ⟨ts, c, p⟩ := r
  show Report.mk (ts ++ []) (c || false) (p || false) = ⟨ts, c, p⟩
  simp

/-- Reports may be put together in any grouping, but not in any order: the threads are in the order
they are found in. -/
theorem append_assoc (a b c : Report) : a ++ b ++ c = a ++ (b ++ c) := by
  show Report.mk _ _ _ = Report.mk _ _ _
  simp [Bool.or_assoc]

@[simp] theorem join_nil : join [] = ∅ := rfl

@[simp] theorem join_cons (r : Report) (rs : List Report) : join (r :: rs) = r ++ join rs := rfl

/-- The threads of joined reports come one after the other. -/
theorem join_threads (rs : List Report) : (join rs).threads = rs.flatMap (·.threads) := by
  induction rs with
  | nil => rfl
  | cons r rs ih => rw [join_cons, append_threads, ih, List.flatMap_cons]

/-- The set serves the speed alone. What is kept are the first occurrences of what is not seen yet.
-/
theorem unseen_eq (seen : Std.HashSet Thread) (ts : List Thread) :
    unseen seen ts = (ts.filter (!seen.contains ·)).eraseDups := by
  induction ts generalizing seen with
  | nil => rfl
  | cons t ts ih =>
    unfold unseen
    split
    · rename_i h
      rw [List.filter_cons_of_neg (by simp [h]), ih]
    · rename_i h
      rw [List.filter_cons_of_pos (by simp [h]), List.eraseDups_cons, ih, List.filter_filter]
      congr 3
      funext u
      rw [Std.HashSet.contains_insert, Bool.not_or, BEq.comm]

/-- Of threads that are reported more than once the first occurrence counts. -/
theorem distinct_eq (r : Report) : r.distinct = r.threads.eraseDups := by
  rw [distinct, unseen_eq, List.filter_eq_self.mpr (by simp)]

/-- A single thread is no duplicate. -/
theorem distinct_singleton (t : Thread) : ({ threads := [t] } : Report).distinct = [t] := by
  rw [distinct_eq, List.eraseDups_cons]
  rfl

end Report

end Motif
