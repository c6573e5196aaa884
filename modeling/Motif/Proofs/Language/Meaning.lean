import Mathlib.Computability.Language
import Motif.Pattern.Span
import Motif.Token.Basic

/-!
# Meanings (specification §4.2 to §4.6, E4)

What a pattern means is said by two languages over symbols: the words that it accepts, and the
words that make progress, which are those whose last symbol some part of it takes. A negation looks
at the progress of what must not occur, so neither language can be had without the other.

Meanings are put together like patterns: one after the other (`*`), either of two (`+`), repeated,
negated. `after x` is what is left of a meaning once the symbol `x` has been taken.

* `after_proper_mul`: if the first part takes at least one symbol, what is left of a sequence is
  what is left of the first part, and then the second.
* `after_negated`: a negation goes on as long as there is progress.
* `repeated_eq_begun`: repeating may be counted in repetitions that take at least one symbol.
-/

namespace Motif

/-- What a part of a pattern means: the words that it accepts, and those whose last symbol it
takes. -/
@[ext] structure Meaning where
  accepted : Language Symbol
  progress : Language Symbol
  nil_notMem : [] ∉ progress

namespace Meaning

/-! ## Meanings from meanings -/

/-- A word of a product is empty only if both of its parts are. -/
theorem nil_notMem_mul {l m : Language Symbol} (h : [] ∉ m) : [] ∉ l * m := by
  intro hm
  obtain ⟨u, -, v, hv, huv⟩ := Language.mem_mul.mp hm
  obtain ⟨-, rfl⟩ := List.append_eq_nil_iff.mp huv
  exact h hv

instance : Zero Meaning := ⟨⟨0, 0, Language.notMem_zero _⟩⟩

instance : One Meaning := ⟨⟨1, 0, Language.notMem_zero _⟩⟩

instance : Add Meaning where
  add a b :=
    { accepted := a.accepted + b.accepted
      progress := a.progress + b.progress
      nil_notMem := not_or_intro a.nil_notMem b.nil_notMem }

instance : Mul Meaning where
  mul a b :=
    { accepted := a.accepted * b.accepted
      progress := a.progress + a.accepted * b.progress
      nil_notMem := not_or_intro a.nil_notMem (nil_notMem_mul b.nil_notMem) }

@[simp] theorem zero_accepted : (0 : Meaning).accepted = 0 := rfl

@[simp] theorem zero_progress : (0 : Meaning).progress = 0 := rfl

@[simp] theorem one_accepted : (1 : Meaning).accepted = 1 := rfl

@[simp] theorem one_progress : (1 : Meaning).progress = 0 := rfl

@[simp] theorem add_accepted (a b : Meaning) : (a + b).accepted = a.accepted + b.accepted := rfl

@[simp] theorem add_progress (a b : Meaning) : (a + b).progress = a.progress + b.progress := rfl

@[simp] theorem mul_accepted (a b : Meaning) : (a * b).accepted = a.accepted * b.accepted := rfl

@[simp] theorem mul_progress (a b : Meaning) :
    (a * b).progress = a.progress + a.accepted * b.progress := rfl

instance : AddCommMonoid Meaning where
  add_assoc a b c := Meaning.ext (add_assoc ..) (add_assoc ..)
  zero_add a := Meaning.ext (zero_add _) (zero_add _)
  add_zero a := Meaning.ext (add_zero _) (add_zero _)
  add_comm a b := Meaning.ext (add_comm ..) (add_comm ..)
  nsmul := nsmulRec

instance : Monoid Meaning where
  mul_assoc a b c := by
    ext1
    · simp [mul_assoc]
    · simp [mul_assoc, mul_add, add_assoc]
  one_mul a := by ext1 <;> simp
  mul_one a := by ext1 <;> simp

protected theorem add_mul (a b c : Meaning) : (a + b) * c = a * c + b * c := by
  ext1
  · simp [add_mul]
  · simp [add_mul, add_assoc, add_left_comm]

@[simp] protected theorem zero_mul (a : Meaning) : 0 * a = 0 := by
  ext1 <;> simp

/-- One symbol that satisfies `p`. -/
def symbols (p : Symbol → Prop) : Meaning where
  accepted := {w | ∃ x, p x ∧ w = [x]}
  progress := {w | ∃ x, p x ∧ w = [x]}
  nil_notMem := by
    rintro ⟨x, -, h⟩
    exact List.cons_ne_nil _ _ h.symm

theorem nil_notMem_symbols (p : Symbol → Prop) : [] ∉ (symbols p).accepted :=
  (symbols p).nil_notMem

/-- Repetitions of `a`, as many as the span allows. A further one makes progress if the span allows
more than those before it. -/
def repeated (s : Pattern.Span) (a : Meaning) : Meaning where
  accepted := {w | ∃ k, s.min.toNat ≤ k ∧ (∀ m ∈ s.max, k ≤ m.toNat) ∧ w ∈ a.accepted ^ k}
  progress := {w | ∃ k, (∀ m ∈ s.max, k < m.toNat) ∧ w ∈ a.accepted ^ k * a.progress}
  nil_notMem := fun ⟨_, _, h⟩ => nil_notMem_mul a.nil_notMem h

/-- A word of tokens such that all of them but the last are progress in `a`. -/
def Pursued (a : Meaning) (w : List Symbol) : Prop :=
  ∃ u x, w = u ++ [x] ∧ (∀ y ∈ w, ∃ t, y = .token t) ∧ ∀ v, v ≠ [] → v <+: u → v ∈ a.progress

/-- Nothing is pursued before a symbol is read. -/
theorem not_pursued_nil (a : Meaning) : ¬ a.Pursued [] := by
  rintro ⟨u, x, h, -⟩
  simp at h

/-- What may stand where `a` must not: tokens with which `a` makes progress, and the first with
which it makes none. -/
def negated (a : Meaning) : Meaning where
  accepted := {w | a.Pursued w ∧ w ∉ a.progress}
  progress := {w | a.Pursued w}
  nil_notMem := a.not_pursued_nil

/-! ## Words that are not empty -/

/-- Nothing, provided that `p`. -/
def emptyIf (p : Prop) : Meaning where
  accepted := {w | p ∧ w = []}
  progress := 0
  nil_notMem := Language.notMem_zero _

/-- `a` with at least one symbol. -/
def proper (a : Meaning) : Meaning :=
  { a with accepted := {w | w ≠ [] ∧ w ∈ a.accepted} }

@[simp] theorem mem_emptyIf {p : Prop} {w : List Symbol} :
    w ∈ (emptyIf p).accepted ↔ p ∧ w = [] := Iff.rfl

@[simp] theorem emptyIf_progress (p : Prop) : (emptyIf p).progress = 0 := rfl

@[simp] theorem mem_proper {a : Meaning} {w : List Symbol} :
    w ∈ a.proper.accepted ↔ w ≠ [] ∧ w ∈ a.accepted := Iff.rfl

@[simp] theorem proper_progress (a : Meaning) : a.proper.progress = a.progress := rfl

theorem emptyIf_of_true {p : Prop} (h : p) : emptyIf p = 1 := by
  ext w
  · simp [h]
  · rfl

theorem emptyIf_of_false {p : Prop} (h : ¬ p) : emptyIf p = 0 := by
  ext w
  · simp [h]
  · rfl

/-- The empty word is accepted if either condition holds. -/
theorem emptyIf_or (p q : Prop) : emptyIf (p ∨ q) = emptyIf p + emptyIf q := by
  ext w
  · simp [Language.mem_add, or_and_right]
  · simp

/-- Either nothing or at least one symbol is taken. -/
theorem proper_add_emptyIf (a : Meaning) : a.proper + emptyIf ([] ∈ a.accepted) = a := by
  ext w
  · rw [add_accepted, Language.mem_add, mem_proper, mem_emptyIf]
    by_cases hw : w = []
    · simp [hw]
    · simp [hw]
  · simp

/-- The empty word is left out of each part of a sum. -/
theorem proper_add (a b : Meaning) : (a + b).proper = a.proper + b.proper := by
  ext w
  · simp [Language.mem_add, and_or_left]
  · rfl

@[simp] theorem proper_zero : (0 : Meaning).proper = 0 := by
  ext w
  · simp
  · rfl

/-- A product whose first part does not accept the empty word does not accept it either. -/
theorem proper_proper_mul (a b : Meaning) : (a.proper * b).proper = a.proper * b := by
  ext w
  · rw [mem_proper, and_iff_right_iff_imp]
    rintro h rfl
    obtain ⟨u, hu, v, -, huv⟩ := Language.mem_mul.mp h
    exact hu.1 (List.append_eq_nil_iff.mp huv).1
  · rfl

/-- `a` if `p`, and else nothing at all. -/
theorem emptyIf_mul (p : Prop) [Decidable p] (a : Meaning) :
    emptyIf p * a = if p then a else 0 := by
  split
  · rename_i h
    rw [emptyIf_of_true h, one_mul]
  · rename_i h
    rw [emptyIf_of_false h, Meaning.zero_mul]

/-! ## Counted repetitions -/

/-- After `c` repetitions `k` more are allowed. -/
def Allows (s : Pattern.Span) (c k : Nat) : Prop :=
  ∀ i < k, s.allowsMore (c + i) = true

@[simp] theorem allows_zero (s : Pattern.Span) (c : Nat) : Allows s c 0 := by
  simp [Allows]

/-- One repetition more is allowed if it may be begun, and the others after it. -/
theorem allows_succ {s : Pattern.Span} {c k : Nat} :
    Allows s c (k + 1) ↔ s.allowsMore c = true ∧ Allows s (c + 1) k := by
  unfold Allows
  rw [Nat.forall_lt_succ_left]
  simp only [Nat.add_zero, Nat.add_assoc, Nat.add_comm 1]

/-- What is left of repetitions of `a` after `c` of them. Only those with at least one symbol are
counted: the others can be had at any time, as many as are wanted. -/
def remaining (s : Pattern.Span) (c : Nat) (a : Meaning) : Meaning where
  accepted := {w | ∃ k, Allows s c k ∧ (s.isSatisfied (c + k) ∨ [] ∈ a.accepted) ∧
    w ∈ a.proper.accepted ^ k}
  progress := {w | ∃ k, Allows s c (k + 1) ∧ w ∈ a.proper.accepted ^ k * a.progress}
  nil_notMem := fun ⟨_, _, h⟩ => nil_notMem_mul a.nil_notMem h

/-- Repetitions of `a` of which the first may always be tried. -/
def begun (s : Pattern.Span) (a : Meaning) : Meaning :=
  emptyIf (s.isSatisfied 0 ∨ [] ∈ a.accepted) + a.proper * a.remaining s 1

/-- What is left of a repetition is nothing, where enough has been read, or one word of the body and
what is left then. -/
theorem mem_remaining_accepted {s : Pattern.Span} {c : Nat} {a : Meaning} {w : List Symbol} :
    w ∈ (a.remaining s c).accepted ↔ ((s.isSatisfied c ∨ [] ∈ a.accepted) ∧ w = []) ∨
      (s.allowsMore c ∧ w ∈ a.proper.accepted * (a.remaining s (c + 1)).accepted) := by
  constructor
  · rintro ⟨k, hk, hs, hw⟩
    cases k with
    | zero => exact Or.inl ⟨hs, by simpa using hw⟩
    | succ k =>
      obtain ⟨hc, hk⟩ := allows_succ.mp hk
      rw [pow_succ'] at hw
      obtain ⟨u, hu, v, hv, rfl⟩ := Language.mem_mul.mp hw
      refine Or.inr ⟨hc, Language.append_mem_mul hu ⟨k, hk, ?_, hv⟩⟩
      rwa [Nat.add_assoc, Nat.add_comm 1]
  · rintro (⟨hs, rfl⟩ | ⟨hc, hw⟩)
    · exact ⟨0, allows_zero s c, hs, by simp⟩
    · obtain ⟨u, hu, v, ⟨k, hk, hs, hv⟩, rfl⟩ := Language.mem_mul.mp hw
      refine ⟨k + 1, allows_succ.mpr ⟨hc, hk⟩, ?_, ?_⟩
      · rwa [Nat.add_comm k, ← Nat.add_assoc]
      · rw [pow_succ']
        exact Language.append_mem_mul hu hv

/-- What is left of a repetition makes progress in the next word of the body or after it. -/
theorem mem_remaining_progress {s : Pattern.Span} {c : Nat} {a : Meaning} {w : List Symbol} :
    w ∈ (a.remaining s c).progress ↔
      s.allowsMore c ∧ w ∈ (a.proper * a.remaining s (c + 1)).progress := by
  constructor
  · rintro ⟨k, hk, hw⟩
    obtain ⟨hc, hk⟩ := allows_succ.mp hk
    refine ⟨hc, ?_⟩
    cases k with
    | zero =>
      rw [pow_zero, one_mul] at hw
      exact Or.inl hw
    | succ k =>
      rw [pow_succ', mul_assoc] at hw
      obtain ⟨u, hu, v, hv, rfl⟩ := Language.mem_mul.mp hw
      exact Or.inr (Language.append_mem_mul hu ⟨k, hk, hv⟩)
  · rintro ⟨hc, hw | hw⟩
    · refine ⟨0, allows_succ.mpr ⟨hc, allows_zero s (c + 1)⟩, ?_⟩
      rwa [pow_zero, one_mul]
    · obtain ⟨u, hu, v, ⟨k, hk, hv⟩, rfl⟩ := Language.mem_mul.mp hw
      refine ⟨k + 1, allows_succ.mpr ⟨hc, hk⟩, ?_⟩
      rw [pow_succ', mul_assoc]
      exact Language.append_mem_mul hu hv

/-- One repetition at a time. -/
theorem remaining_eq (s : Pattern.Span) (c : Nat) (a : Meaning) :
    a.remaining s c = emptyIf (s.isSatisfied c ∨ [] ∈ a.accepted) +
      emptyIf (s.allowsMore c) * (a.proper * a.remaining s (c + 1)) := by
  ext w
  · rw [mem_remaining_accepted, add_accepted, Language.mem_add, mem_emptyIf, emptyIf_mul]
    split <;> simp [*]
  · rw [mem_remaining_progress, add_progress, Language.mem_add, emptyIf_mul]
    split <;> simp [*]

/-- If the first repetition is allowed at all, nothing is gained by always trying it. -/
theorem remaining_zero {s : Pattern.Span} (h : s.allowsMore 0) (a : Meaning) :
    a.remaining s 0 = a.begun s := by
  rw [remaining_eq, emptyIf_of_true h, one_mul, begun]

/-- Leaving the empty word out of the body takes no words of the repetition in. -/
theorem mem_pow_of_mem_proper_pow {a : Meaning} : ∀ {k : Nat} {w : List Symbol},
    w ∈ a.proper.accepted ^ k → w ∈ a.accepted ^ k
  | 0, w, h => by simpa using h
  | k + 1, w, h => by
    rw [pow_succ'] at h ⊢
    obtain ⟨u, hu, v, hv, rfl⟩ := Language.mem_mul.mp h
    exact Language.append_mem_mul hu.2 (mem_pow_of_mem_proper_pow hv)

/-- Repetitions without a symbol may be left out. -/
theorem exists_mem_proper_pow {a : Meaning} : ∀ {k : Nat} {w : List Symbol}, w ∈ a.accepted ^ k →
    ∃ j ≤ k, w ∈ a.proper.accepted ^ j ∧ (j < k → [] ∈ a.accepted)
  | 0, w, h => ⟨0, le_refl _, by simpa using h, by simp⟩
  | k + 1, w, h => by
    rw [pow_succ'] at h
    obtain ⟨u, hu, v, hv, rfl⟩ := Language.mem_mul.mp h
    obtain ⟨j, hj, hvj, hn⟩ := exists_mem_proper_pow hv
    by_cases hu0 : u = []
    · subst hu0
      exact ⟨j, Nat.le_succ_of_le hj, hvj, fun _ => hu⟩
    · refine ⟨j + 1, Nat.succ_le_succ hj, ?_, fun h => hn (Nat.lt_of_succ_lt_succ h)⟩
      rw [pow_succ']
      exact Language.append_mem_mul ⟨hu0, hu⟩ hvj

/-- Repetitions without a symbol may be added. -/
theorem mem_pow_add {a : Meaning} (hn : [] ∈ a.accepted) {k : Nat} {w : List Symbol}
    (h : w ∈ a.accepted ^ k) : ∀ d, w ∈ a.accepted ^ (d + k)
  | 0 => by rwa [Nat.zero_add]
  | d + 1 => by
    rw [Nat.add_right_comm, pow_succ']
    exact Language.append_mem_mul hn (mem_pow_add hn h d)

/-- From the start, as many repetitions are allowed as the maximum says. -/
theorem allows_iff {s : Pattern.Span} {k : Nat} :
    Allows s 0 k ↔ ∀ m ∈ s.max, k ≤ m.toNat := by
  unfold Allows Pattern.Span.allowsMore
  cases s.max with
  | none => simp
  | some m =>
    simp only [Option.all_some, decide_eq_true_eq, Option.mem_some_iff, forall_eq', Nat.zero_add]
    constructor
    · intro h
      by_contra hm
      exact absurd (h m.toNat (by omega)) (by omega)
    · intro h i hi
      omega

/-- **Repetitions may be counted without those that take nothing**, if the span has a count in it
that is not zero. -/
theorem repeated_eq_begun {s : Pattern.Span} (h0 : ∀ m ∈ s.max, 0 < m.toNat)
    (hs : ∀ m ∈ s.max, s.min.toNat ≤ m.toNat) (a : Meaning) : a.repeated s = a.begun s := by
  have h1 : s.allowsMore 0 = true := allows_iff.mpr h0 0 Nat.one_pos
  rw [← remaining_zero h1]
  ext w
  · constructor
    · rintro ⟨k, hk, hm, hw⟩
      obtain ⟨j, hj, hwj, hn⟩ := exists_mem_proper_pow hw
      refine ⟨j, allows_iff.mpr fun m h => hj.trans (hm m h), ?_, hwj⟩
      rcases Nat.lt_or_ge j k with h | h
      · exact Or.inr (hn h)
      · exact Or.inl (by simpa [Pattern.Span.isSatisfied] using hk.trans h)
    · rintro ⟨k, hk, hsat, hw⟩
      have hw := mem_pow_of_mem_proper_pow hw
      have hk := allows_iff.mp hk
      simp only [Pattern.Span.isSatisfied, decide_eq_true_eq, Nat.zero_add] at hsat
      by_cases hmin : s.min.toNat ≤ k
      · exact ⟨k, hmin, hk, hw⟩
      · have hn := hsat.resolve_left hmin
        refine ⟨s.min.toNat, le_refl _, hs, ?_⟩
        have := mem_pow_add hn hw (s.min.toNat - k)
        rwa [Nat.sub_add_cancel (by omega)] at this
  · constructor
    · rintro ⟨k, hk, hw⟩
      obtain ⟨u, hu, v, hv, rfl⟩ := Language.mem_mul.mp hw
      obtain ⟨j, hj, huj, -⟩ := exists_mem_proper_pow hu
      refine ⟨j, allows_iff.mpr fun m h => ?_, Language.append_mem_mul huj hv⟩
      exact Nat.succ_le_of_lt (hj.trans_lt (hk m h))
    · rintro ⟨k, hk, hw⟩
      obtain ⟨u, hu, v, hv, rfl⟩ := Language.mem_mul.mp hw
      exact ⟨k, allows_iff.mp hk, Language.append_mem_mul (mem_pow_of_mem_proper_pow hu) hv⟩

/-! ## After one symbol -/

/-- What is left of a meaning once `x` has been taken. -/
def after (x : Symbol) (a : Meaning) : Meaning where
  accepted := {w | x :: w ∈ a.accepted}
  progress := {w | w ≠ [] ∧ x :: w ∈ a.progress}
  nil_notMem := fun h => h.1 rfl

@[simp] theorem mem_after_accepted {x : Symbol} {a : Meaning} {w : List Symbol} :
    w ∈ (a.after x).accepted ↔ x :: w ∈ a.accepted := Iff.rfl

@[simp] theorem mem_after_progress {x : Symbol} {a : Meaning} {w : List Symbol} :
    w ∈ (a.after x).progress ↔ w ≠ [] ∧ x :: w ∈ a.progress := Iff.rfl

@[simp] theorem after_zero (x : Symbol) : (0 : Meaning).after x = 0 := by
  ext w <;> simp

/-- No symbol can be read of the empty word. -/
theorem after_emptyIf (x : Symbol) (p : Prop) : (emptyIf p).after x = 0 := by
  ext w <;> simp

/-- A symbol is read of each part of a sum. -/
theorem after_add (x : Symbol) (a b : Meaning) : (a + b).after x = a.after x + b.after x := by
  ext w
  · exact Iff.rfl
  · simp [Language.mem_add, and_or_left]

/-- A single symbol is read, and then the empty word is left. -/
theorem after_symbols (x : Symbol) (p : Symbol → Prop) : (symbols p).after x = emptyIf (p x) := by
  ext w
  · show (∃ y, p y ∧ x :: w = [y]) ↔ p x ∧ w = []
    constructor
    · rintro ⟨y, hy, h⟩
      obtain ⟨rfl, rfl⟩ := List.cons_eq_cons.mp h
      exact ⟨hy, rfl⟩
    · rintro ⟨hx, rfl⟩
      exact ⟨x, hx, rfl⟩
  · show (w ≠ [] ∧ ∃ y, p y ∧ x :: w = [y]) ↔ False
    rw [iff_false]
    rintro ⟨hw, y, -, h⟩
    exact hw (List.cons_eq_cons.mp h).2

/-- The first symbol of a product is read of its first part, where that part does not accept the
empty word. -/
theorem cons_mem_proper_mul {x : Symbol} {a : Meaning} {m : Language Symbol} {w : List Symbol} :
    x :: w ∈ a.proper.accepted * m ↔ w ∈ (a.after x).accepted * m := by
  constructor
  · intro h
    obtain ⟨u, ⟨hu0, hu⟩, v, hv, huv⟩ := Language.mem_mul.mp h
    obtain ⟨y, u, rfl⟩ := List.exists_cons_of_ne_nil hu0
    obtain ⟨rfl, rfl⟩ := List.cons_eq_cons.mp huv
    exact Language.append_mem_mul (show u ∈ (a.after y).accepted from hu) hv
  · intro h
    obtain ⟨u, hu, v, hv, rfl⟩ := Language.mem_mul.mp h
    exact Language.append_mem_mul (a := x :: u) ⟨by simp, hu⟩ hv

/-- **What is left of a sequence** whose first part takes at least one symbol. -/
theorem after_proper_mul (x : Symbol) (a b : Meaning) :
    (a.proper * b).after x = a.after x * b := by
  ext w
  · exact cons_mem_proper_mul
  · rw [mem_after_progress, mul_progress, mul_progress, Language.mem_add, Language.mem_add,
      cons_mem_proper_mul, and_or_left]
    refine or_congr Iff.rfl (and_iff_right_of_imp ?_)
    rintro h rfl
    exact nil_notMem_mul b.nil_notMem h

/-- A word is pursued past its first symbol if that is a token, it makes progress, and the rest is
pursued after it. -/
theorem cons_pursued_iff {a : Meaning} {x : Symbol} {w : List Symbol} (hw : w ≠ []) :
    a.Pursued (x :: w) ↔ (∃ t, x = .token t) ∧ [x] ∈ a.progress ∧ (a.after x).Pursued w := by
  constructor
  · rintro ⟨u, y, h, ht, hp⟩
    cases u with
    | nil => exact absurd (List.cons_eq_cons.mp h).2 hw
    | cons z u =>
      obtain ⟨rfl, rfl⟩ := List.cons_eq_cons.mp h
      refine ⟨ht x List.mem_cons_self, hp [x] (by simp) (by simp), u, y, rfl,
        fun z hz => ht z (List.mem_cons_of_mem _ hz), fun v hv hvu => ⟨hv, ?_⟩⟩
      exact hp (x :: v) (by simp) (by simpa using hvu)
  · rintro ⟨hx, hxp, u, y, rfl, ht, hp⟩
    refine ⟨x :: u, y, rfl, by simpa using ⟨hx, by simpa using ht⟩, fun v hv hvu => ?_⟩
    obtain ⟨z, v, rfl⟩ := List.exists_cons_of_ne_nil hv
    obtain ⟨rfl, hvu'⟩ := List.cons_prefix_cons.mp hvu
    by_cases hv0 : v = []
    · rwa [hv0]
    · exact (hp v hv0 hvu').2

theorem pursued_singleton {a : Meaning} {x : Symbol} : a.Pursued [x] ↔ ∃ t, x = .token t := by
  constructor
  · rintro ⟨-, -, -, ht, -⟩
    exact ht x (by simp)
  · intro hx
    refine ⟨[], x, rfl, by simpa using hx, fun v hv hvu => ?_⟩
    exact absurd (List.prefix_nil.mp hvu) hv

/-- A negation takes no sentinel. -/
theorem after_negated_sentinel (s : Sentinel) (a : Meaning) :
    a.negated.after (.sentinel s) = 0 := by
  have h : ∀ w, ¬ a.Pursued (.sentinel s :: w) := by
    rintro w ⟨-, -, -, ht, -⟩
    obtain ⟨t, h⟩ := ht _ List.mem_cons_self
    cases h
  ext w
  · exact iff_of_false (fun hw => h w hw.1) (Language.notMem_zero w)
  · exact iff_of_false (fun hw => h w hw.2) (Language.notMem_zero w)

/-- **A negation goes on** as long as there is progress in what it negates. -/
theorem after_negated_of_progress {t : Token} {a : Meaning} (h : [.token t] ∈ a.progress) :
    a.negated.after (.token t) = (a.after (.token t)).negated := by
  ext w
  · show a.Pursued (.token t :: w) ∧ .token t :: w ∉ a.progress ↔
      (a.after (.token t)).Pursued w ∧ ¬ (w ≠ [] ∧ .token t :: w ∈ a.progress)
    by_cases hw : w = []
    · subst hw
      exact iff_of_false (fun h' => h'.2 h) (fun h' => not_pursued_nil _ h'.1)
    · rw [cons_pursued_iff hw]
      simp [hw, h]
  · show w ≠ [] ∧ a.Pursued (.token t :: w) ↔ (a.after (.token t)).Pursued w
    by_cases hw : w = []
    · subst hw
      exact iff_of_false (fun h' => h'.1 rfl) (not_pursued_nil _)
    · rw [cons_pursued_iff hw]
      simp [hw, h]

/-- A negation ends with the first token that is no progress. -/
theorem after_negated_of_not_progress {t : Token} {a : Meaning} (h : [.token t] ∉ a.progress) :
    a.negated.after (.token t) = 1 := by
  ext w
  · show a.Pursued (.token t :: w) ∧ .token t :: w ∉ a.progress ↔ w = []
    by_cases hw : w = []
    · subst hw
      simpa [pursued_singleton] using h
    · rw [cons_pursued_iff hw]
      simp [hw, h]
  · refine iff_of_false ?_ (Language.notMem_zero w)
    rintro ⟨hw, hp⟩
    exact h ((cons_pursued_iff hw).mp hp).2.1

/-! ## Symbols that no word has -/

/-- No word has the symbol `x` in it. -/
def Avoids (x : Symbol) (a : Meaning) : Prop :=
  ∀ w ∈ a.accepted, x ∉ w

section Avoids

variable {x : Symbol} {a b : Meaning}

theorem avoids_one : (1 : Meaning).Avoids x := by
  rintro w rfl
  exact List.not_mem_nil

/-- What no word of either part has, no word of the product has. -/
theorem Avoids.mul (ha : a.Avoids x) (hb : b.Avoids x) : (a * b).Avoids x := by
  intro w hw
  obtain ⟨u, hu, v, hv, rfl⟩ := Language.mem_mul.mp hw
  rw [List.mem_append]
  exact not_or_intro (ha u hu) (hb v hv)

theorem avoids_sum {as : List Meaning} (h : ∀ a ∈ as, Avoids x a) : as.sum.Avoids x := by
  induction as with
  | nil => exact fun w hw => absurd hw (Language.notMem_zero w)
  | cons a as ih =>
    rintro w (hw | hw)
    · exact h a List.mem_cons_self w hw
    · exact ih (fun b hb => h b (List.mem_cons_of_mem a hb)) w hw

/-- Nor does a repetition have it. -/
theorem Avoids.begun (h : a.Avoids x) (s : Pattern.Span) : (a.begun s).Avoids x := by
  have hpow : ∀ (k : Nat), ∀ w ∈ a.accepted ^ k, x ∉ w := by
    intro k
    induction k with
    | zero => exact avoids_one
    | succ k ih =>
      intro w hw
      rw [pow_succ'] at hw
      obtain ⟨u, hu, v, hv, rfl⟩ := Language.mem_mul.mp hw
      rw [List.mem_append]
      exact not_or_intro (h u hu) (ih v hv)
  rintro w (⟨-, rfl⟩ | hw)
  · exact List.not_mem_nil
  · obtain ⟨u, hu, v, ⟨k, -, -, hv⟩, rfl⟩ := Language.mem_mul.mp hw
    rw [List.mem_append]
    exact not_or_intro (h u hu.2) (hpow k v (mem_pow_of_mem_proper_pow hv))

theorem avoids_symbols {p : Symbol → Prop} (h : ¬ p x) : (symbols p).Avoids x := by
  rintro w ⟨y, hy, rfl⟩ hx
  obtain rfl := List.mem_singleton.mp hx
  exact h hy

/-- No word of a negation has a sentinel: a negation reads tokens only. -/
theorem avoids_negated (s : Sentinel) (a : Meaning) : a.negated.Avoids (.sentinel s) := by
  rintro w ⟨⟨-, -, -, ht, -⟩, -⟩ hs
  obtain ⟨t, h⟩ := ht _ hs
  cases h

end Avoids

end Meaning

end Motif
