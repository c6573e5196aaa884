/-!
# Threads (specification §9)

A thread is one way in which an attempt may go on. Most wait before a node for the next symbol. A
thread in the middle of a repetition holds the repetitions that are complete and the threads of the
one under way; a thread in a negation holds the threads of what must not occur.

Threads with the same content are the same thread, so that an attempt is not followed twice.

A thread in the middle of a node is a `RepeatAttempt` or a `NegationAttempt`.
-/

namespace Motif

/-- One way in which an attempt may go on. -/
inductive Thread where
  | before (id : Nat)
  | repetition (id : Nat) (count : Nat) (threads : List Thread)
  | negation (id : Nat) (threads : List Thread)
  deriving Hashable

namespace Thread

mutual

/-- Decides whether two threads are the same. -/
def decEq : (a b : Thread) → Decidable (a = b)
  | before i, before j => decidable_of_iff (i = j) (by simp)
  | repetition i c s, repetition j d t =>
    if h : i = j ∧ c = d then
      @decidable_of_iff _ (s = t) (by simp [h]) (decEqList s t)
    else isFalse (by simp; exact fun hi hc => absurd ⟨hi, hc⟩ h)
  | negation i s, negation j t =>
    if h : i = j then @decidable_of_iff _ (s = t) (by simp [h]) (decEqList s t)
    else isFalse (by simp [h])
  | before _, repetition .. | before _, negation .. | repetition .., before _
  | repetition .., negation .. | negation .., before _ | negation .., repetition .. =>
    isFalse (by simp)

/-- Decides whether two lists of threads are the same. -/
def decEqList : (as bs : List Thread) → Decidable (as = bs)
  | [], [] => isTrue rfl
  | a :: as, b :: bs =>
    match decEq a b with
    | isTrue h => @decidable_of_iff _ (as = bs) (by simp [h]) (decEqList as bs)
    | isFalse h => isFalse (by simp [h])
  | [], _ :: _ | _ :: _, [] => isFalse (by simp)

end

instance : DecidableEq Thread := decEq

end Thread

end Motif
