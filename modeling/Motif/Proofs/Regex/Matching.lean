import Mathlib.Logic.Function.Iterate
import Motif.Regex.Match

/-!
# What regular expressions match

`Matches text r i j` says that an expression matches the part of a text between two places, by
recursion on the expression and with no regard to how the part is found. The search goes through the
expression once and moves whole sets of places. It is right since all that it does to a set is done
to each of its places.

* `Carries`: a function takes a set of places to all places that a relation leads to from it.
* `carries_ends`: what an expression does to a set of places is what it matches.
* **`isMatch_iff`**: the search finds a match iff some part of the text is matched.
-/

namespace Motif.Regex

/-! ## Parts of a text -/

/-- `n` steps of a relation between places. -/
def Times (R : Nat → Nat → Prop) : Nat → Nat → Nat → Prop
  | 0, i, j => i = j
  | n + 1, i, j => ∃ k, R i k ∧ Times R n k j

mutual

/-- Whether an expression matches the part of a text from the place `i` to the place `j`. -/
def Matches (text : List Char) : Regex → Nat → Nat → Prop
  | empty, i, j => i = j
  | char s _, i, j => j = i + 1 ∧ ∃ c, text[i]? = some c ∧ s.contains c = true
  | look l, i, j => i = j ∧ i ≤ text.length ∧ l.holds (text.take i).getLast? text[i]? = true
  | concat rs, i, j => MatchesAll text rs i j
  | alternation rs, i, j => MatchesAny text rs i j
  | group r _, i, j => Matches text r i j
  | repetition r min max _, i, j =>
    ∃ more, (∀ m ∈ max, more ≤ m - min) ∧ Times (Matches text r) (min + more) i j

/-- Whether the expressions of a list match a part of a text one after the other. -/
def MatchesAll (text : List Char) : List Regex → Nat → Nat → Prop
  | [], i, j => i = j
  | r :: rs, i, j => ∃ k, Matches text r i k ∧ MatchesAll text rs k j

/-- Whether one of the expressions of a list matches a part of a text. -/
def MatchesAny (text : List Char) : List Regex → Nat → Nat → Prop
  | [], _, _ => False
  | r :: rs, i, j => Matches text r i j ∨ MatchesAny text rs i j

end

section Matches

variable {text : List Char} {i j : Nat}

/-- A sequence matches what its parts match one after the other. -/
theorem matches_concat {rs : List Regex} :
    Matches text (concat rs) i j ↔ MatchesAll text rs i j := by
  rw [Matches]

/-- Capturing makes no difference to what is matched. -/
theorem matches_group {r : Regex} {captures : Bool} :
    Matches text (group r captures) i j ↔ Matches text r i j := by
  rw [Matches]

theorem matches_textStart : Matches text (look .textStart) i j ↔ i = 0 ∧ j = 0 := by
  simp only [Matches, Look.holds, Option.isNone_iff_eq_none, List.getLast?_eq_none_iff,
    List.take_eq_nil_iff]
  constructor
  · rintro ⟨rfl, hi, rfl | rfl⟩
    · exact ⟨rfl, rfl⟩
    · exact ⟨Nat.le_zero.mp hi, Nat.le_zero.mp hi⟩
  · rintro ⟨rfl, rfl⟩
    exact ⟨rfl, Nat.zero_le _, .inl rfl⟩

theorem matches_textEnd :
    Matches text (look .textEnd) i j ↔ i = text.length ∧ j = text.length := by
  simp only [Matches, Look.holds, Option.isNone_iff_eq_none, List.getElem?_eq_none_iff]
  omega

end Matches

/-- A relation that leads on, and not beyond the end of a text of `size` characters. -/
def LeadsOn (size : Nat) (R : Nat → Nat → Prop) : Prop :=
  ∀ i j, R i j → i ≤ j ∧ (i < j → j ≤ size)

theorem LeadsOn.comp {size : Nat} {R S : Nat → Nat → Prop} (hR : LeadsOn size R)
    (hS : LeadsOn size S) : LeadsOn size fun i j => ∃ k, R i k ∧ S k j := by
  rintro i j ⟨k, hik, hkj⟩
  have h1 := hR i k hik
  have h2 := hS k j hkj
  omega

theorem leadsOn_eq (size : Nat) : LeadsOn size Eq := by
  rintro i j rfl
  omega

/-- By induction on the number of repetitions. -/
theorem LeadsOn.times {size : Nat} {R : Nat → Nat → Prop} (hR : LeadsOn size R) :
    ∀ n, LeadsOn size (Times R n)
  | 0 => leadsOn_eq size
  | n + 1 => hR.comp (hR.times n)

mutual

/-- A match does not lead back, nor past the end of the text. -/
theorem leadsOn_matches (text : List Char) : ∀ r : Regex, LeadsOn text.length (Matches text r)
  | empty => leadsOn_eq _
  | char s _ => by
    rintro i j ⟨rfl, c, hc, -⟩
    have := (List.getElem?_eq_some_iff.mp hc).1
    omega
  | look l => by
    rintro i j ⟨rfl, -⟩
    omega
  | concat rs => leadsOn_matchesAll text rs
  | alternation rs => leadsOn_matchesAny text rs
  | group r _ => leadsOn_matches text r
  | repetition r min max _ => by
    rintro i j ⟨more, -, h⟩
    exact (leadsOn_matches text r).times _ i j h

theorem leadsOn_matchesAll (text : List Char) :
    ∀ rs : List Regex, LeadsOn text.length (MatchesAll text rs)
  | [] => leadsOn_eq _
  | r :: rs => (leadsOn_matches text r).comp (leadsOn_matchesAll text rs)

theorem leadsOn_matchesAny (text : List Char) :
    ∀ rs : List Regex, LeadsOn text.length (MatchesAny text rs)
  | [] => fun _ _ h => h.elim
  | r :: rs => by
    rintro i j (h | h)
    · exact leadsOn_matches text r i j h
    · exact leadsOn_matchesAny text rs i j h

end

/-! ## Repetition -/

section Times

variable {R : Nat → Nat → Prop} {i j : Nat}

/-- Repetitions in a row are added up. -/
theorem times_add {m : Nat} :
    ∀ {n i : Nat}, Times R (n + m) i j ↔ ∃ k, Times R n i k ∧ Times R m k j
  | 0, i => by
    rw [Nat.zero_add]
    exact ⟨fun h => ⟨i, rfl, h⟩, by rintro ⟨k, rfl, h⟩; exact h⟩
  | n + 1, i => by
    rw [Nat.succ_add_eq_add_succ, Nat.add_succ]
    constructor
    · rintro ⟨k, hik, hkj⟩
      obtain ⟨l, hkl, hlj⟩ := times_add.mp hkj
      exact ⟨l, ⟨k, hik, hkl⟩, hlj⟩
    · rintro ⟨l, ⟨k, hik, hkl⟩, hlj⟩
      exact ⟨k, hik, times_add.mpr ⟨l, hkl, hlj⟩⟩

/-- Steps that stay where they are may be left out, so no more are needed than there are places. -/
theorem Times.shorten {size : Nat} (hR : LeadsOn size R) :
    ∀ {n i : Nat}, Times R n i j → ∃ m ≤ j - i, Times R m i j
  | 0, i, h => ⟨0, Nat.zero_le _, h⟩
  | n + 1, i, ⟨k, hik, hkj⟩ => by
    obtain ⟨m, hm, h⟩ := shorten hR hkj
    have h1 := hR i k hik
    have h2 := hR.times n k j hkj
    rcases Nat.eq_or_lt_of_le h1.1 with rfl | hlt
    · exact ⟨m, hm, h⟩
    · exact ⟨m + 1, by omega, k, hik, h⟩

/-- More repetitions than there are places reach nothing new, since one that stays in place may be
left out. -/
theorem exists_times_iff {size : Nat} (hR : LeadsOn size R) :
    (∃ n, Times R n i j) ↔ ∃ n ≤ size + 1, Times R n i j := by
  constructor
  · rintro ⟨n, h⟩
    have hij := hR.times n i j h
    obtain ⟨m, hm, h⟩ := h.shorten hR
    exact ⟨m, by omega, h⟩
  · rintro ⟨n, -, h⟩
    exact ⟨n, h⟩

end Times

/-! ## Sets of places -/

/-- A function that takes a set of places to all places that a relation leads to from it. -/
def Carries (f : Nat → Nat) (R : Nat → Nat → Prop) : Prop :=
  ∀ x j, (f x).testBit j = true ↔ ∃ i, x.testBit i = true ∧ R i j

theorem carries_id : Carries id Eq := fun x j => by simp

/-- Sets of places are carried along two relations one after the other. -/
theorem Carries.comp {f g : Nat → Nat} {R S : Nat → Nat → Prop} (hf : Carries f R)
    (hg : Carries g S) : Carries (fun x => g (f x)) fun i j => ∃ k, R i k ∧ S k j := by
  intro x j
  rw [hg]
  constructor
  · rintro ⟨k, hk, hkj⟩
    obtain ⟨i, hi, hik⟩ := (hf x k).mp hk
    exact ⟨i, hi, k, hik, hkj⟩
  · rintro ⟨i, hi, k, hik, hkj⟩
    exact ⟨k, (hf x k).mpr ⟨i, hi, hik⟩, hkj⟩

/-- Whether a set of places is carried along a relation depends on what the relation holds of alone.
-/
theorem Carries.congr {f : Nat → Nat} {R S : Nat → Nat → Prop} (hf : Carries f R)
    (h : ∀ i j, R i j ↔ S i j) : Carries f S := by
  intro x j
  simp only [hf x j, h]

/-- Reading a character moves on from every place where it may stand. -/
theorem carries_step (places : Nat) :
    Carries (fun x => (x &&& places) <<< 1) fun i j => j = i + 1 ∧ places.testBit i = true := by
  intro x j
  cases j with
  | zero => simp
  | succ j =>
    simp only [Nat.testBit_shiftLeft, Nat.le_add_left, decide_true, Nat.add_sub_cancel,
      Bool.true_and, Nat.testBit_and, Bool.and_eq_true, Nat.add_right_cancel_iff]
    exact ⟨fun ⟨h1, h2⟩ => ⟨j, h1, rfl, h2⟩, by rintro ⟨i, h1, rfl, h2⟩; exact ⟨h1, h2⟩⟩

/-- A look keeps the places where it holds. -/
theorem carries_look (places : Nat) :
    Carries (fun x => x &&& places) fun i j => i = j ∧ places.testBit i = true := by
  intro x j
  simp only [Nat.testBit_and, Bool.and_eq_true]
  exact ⟨fun ⟨h1, h2⟩ => ⟨j, h1, rfl, h2⟩, by rintro ⟨i, h1, rfl, h2⟩; exact ⟨h1, h2⟩⟩

/-- Applying a function until nothing changes is applying it the given number of times. -/
theorem applyTimes_eq_iterate (f : Nat → Nat) : ∀ n x, applyTimes f n x = f^[n] x
  | 0, x => rfl
  | n + 1, x => by
    rw [applyTimes, Function.iterate_succ_apply]
    split
    · rename_i h
      rw [h, Function.iterate_fixed h]
    · exact applyTimes_eq_iterate f n (f x)

/-- So is collecting what is reached. -/
theorem reachWithin_eq_iterate (f : Nat → Nat) :
    ∀ n x, reachWithin f n x = (fun x => x ||| f x)^[n] x
  | 0, x => rfl
  | n + 1, x => by
    rw [reachWithin, Function.iterate_succ_apply]
    split
    · rename_i h
      rw [h, Function.iterate_fixed h]
    · exact reachWithin_eq_iterate f n (x ||| f x)

/-- What is carried along a relation a number of times. -/
theorem Carries.applyTimes {f : Nat → Nat} {R : Nat → Nat → Prop} (hf : Carries f R) :
    ∀ n, Carries (applyTimes f n) (Times R n)
  | 0 => carries_id
  | n + 1 => by
    have h := hf.comp (hf.applyTimes n)
    intro x j
    rw [applyTimes_eq_iterate, Function.iterate_succ_apply, ← applyTimes_eq_iterate]
    exact h x j

/-- What is carried along it at most a number of times. -/
theorem Carries.reachWithin {f : Nat → Nat} {R : Nat → Nat → Prop} (hf : Carries f R) :
    ∀ n, Carries (reachWithin f n) fun i j => ∃ m ≤ n, Times R m i j
  | 0 => carries_id.congr fun i j => by simp [Times]
  | n + 1 => by
    intro x j
    rw [reachWithin_eq_iterate, Function.iterate_succ_apply, ← reachWithin_eq_iterate,
      hf.reachWithin n]
    simp only [Nat.testBit_or, Bool.or_eq_true, hf x]
    constructor
    · rintro ⟨k, hk | ⟨i, hi, hik⟩, m, hm, h⟩
      · exact ⟨k, hk, m, by omega, h⟩
      · exact ⟨i, hi, m + 1, by omega, k, hik, h⟩
    · rintro ⟨i, hi, m, hm, h⟩
      cases m with
      | zero => exact ⟨i, .inl hi, 0, Nat.zero_le n, h⟩
      | succ m =>
        obtain ⟨k, hik, h⟩ := h
        exact ⟨k, .inr ⟨i, hi, hik⟩, m, by omega, h⟩

/-! ## Places of a text -/

/-- The bits of a number that is made of bits. -/
theorem testBit_ofBits : ∀ (bits : List Bool) (i : Nat), (ofBits bits).testBit i = bits.getD i false
  | [], i => by simp [ofBits]
  | b :: bits, 0 => by cases b <;> simp [ofBits]
  | b :: bits, i + 1 => by
    rw [List.getD_cons_succ, ← testBit_ofBits bits i, Nat.testBit_succ]
    congr 1
    simp only [ofBits, List.foldr_cons]
    cases b <;> simp only [Bool.toNat_false, Bool.toNat_true] <;> omega

/-- Every place of a text stands between the character before it, if there is one, and the character
after it. -/
theorem getElem?_around : ∀ (before : Option Char) (text : List Char) (i : Nat),
    (around before text)[i]? =
      if i ≤ text.length then some ((text.take i).getLast?.or before, text[i]?) else none
  | before, [], 0 => by simp [around]
  | before, [], i + 1 => by simp [around]
  | before, c :: cs, 0 => by simp [around]
  | before, c :: cs, i + 1 => by
    rw [around, List.getElem?_cons_succ, getElem?_around (some c) cs i]
    simp only [List.length_cons, Nat.add_le_add_iff_right, List.take_succ_cons,
      List.getLast?_cons, List.getElem?_cons_succ]
    cases (cs.take i).getLast? <;> rfl

/-- The places where a character of a set stands. -/
theorem testBit_places {text : List Char} {s : Text.CodePointSet} {i : Nat} :
    (ofBits (text.map s.contains)).testBit i = true ↔
      ∃ c, text[i]? = some c ∧ s.contains c = true := by
  rw [testBit_ofBits, List.getD_eq_getElem?_getD, List.getElem?_map]
  cases text[i]? <;> simp

/-- The places where a look holds. -/
theorem testBit_looks {text : List Char} {l : Look} {i : Nat} :
    (ofBits ((around none text).map fun p => l.holds p.1 p.2)).testBit i = true ↔
      i ≤ text.length ∧ l.holds (text.take i).getLast? text[i]? = true := by
  rw [testBit_ofBits, List.getD_eq_getElem?_getD, List.getElem?_map, getElem?_around]
  split <;> simp [*]

/-! ## The search -/

mutual

/-- **What an expression does to a set of places** is what it matches. -/
theorem carries_ends (text : List Char) :
    ∀ r : Regex, Carries ((r.walk text).ends text.length) (Matches text r)
  | empty => by
    intro x j
    rw [walk, Walk.ends]
    exact carries_id x j
  | char s _ => by
    intro x j
    rw [walk, Walk.ends, carries_step _ x j]
    simp only [testBit_places, Matches]
  | look l => by
    intro x j
    rw [walk, Walk.ends, carries_look _ x j]
    simp only [testBit_looks, Matches]
  | concat rs => by
    intro x j
    rw [walk, Walk.ends]
    exact (carries_endsAll text rs x j).trans (by simp only [Matches])
  | alternation rs => by
    intro x j
    rw [walk, Walk.ends, carries_endsAny text rs x]
    simp only [Nat.zero_testBit, Bool.false_eq_true, false_or, Matches]
  | group r _ => by
    intro x j
    rw [walk]
    exact (carries_ends text r x j).trans (by simp only [Matches])
  | repetition r min max _ => by
    have hr := carries_ends text r
    intro x j
    rw [walk, Walk.ends, (hr.applyTimes min).comp (hr.reachWithin _) x j]
    refine exists_congr fun i => and_congr_right fun _ => ?_
    simp only [Matches, times_add]
    cases max with
    | none =>
      simp only [Option.elim_none, ← exists_times_iff (leadsOn_matches text r), Option.not_mem_none,
        false_implies, implies_true, true_and]
      exact ⟨fun ⟨k, hk, n, h⟩ => ⟨n, k, hk, h⟩, fun ⟨n, k, hk, h⟩ => ⟨k, hk, n, h⟩⟩
    | some m =>
      simp only [Option.elim_some, Option.mem_some_iff, forall_eq']
      exact ⟨fun ⟨k, hk, n, hn, h⟩ => ⟨n, hn, k, hk, h⟩, fun ⟨n, hn, k, hk, h⟩ => ⟨k, hk, n, hn, h⟩⟩

theorem carries_endsAll (text : List Char) : ∀ rs : List Regex,
    Carries (fun x => (rs.map (walk text)).foldl (fun y w => w.ends text.length y) x)
      (MatchesAll text rs)
  | [] => carries_id
  | r :: rs => (carries_ends text r).comp (carries_endsAll text rs)

theorem carries_endsAny (text : List Char) : ∀ (rs : List Regex) (x y j : Nat),
    ((rs.map (walk text)).foldl (fun y w => y ||| w.ends text.length x) y).testBit j = true ↔
      y.testBit j = true ∨ ∃ i, x.testBit i = true ∧ MatchesAny text rs i j
  | [], x, y, j => by simp [MatchesAny]
  | r :: rs, x, y, j => by
    rw [List.map_cons, List.foldl_cons, carries_endsAny text rs, Nat.testBit_or, Bool.or_eq_true,
      carries_ends text r x, or_assoc, ← exists_or]
    simp only [MatchesAny, and_or_left]

end

/-- **The search finds a match** iff some part of the text is matched. -/
theorem isMatch_iff {r : Regex} {text : List Char} :
    r.isMatch text = true ↔ ∃ i j, i ≤ text.length ∧ Matches text r i j := by
  have hstart : ∀ i, (1 <<< (text.length + 1) - 1).testBit i = true ↔ i ≤ text.length := by
    intro i
    rw [Nat.one_shiftLeft, Nat.testBit_two_pow_sub_one, decide_eq_true_iff, Nat.lt_succ_iff]
  have hsome : ∀ n : Nat, n ≠ 0 ↔ ∃ j, n.testBit j = true := by
    refine fun n => ⟨Nat.exists_testBit_of_ne_zero, ?_⟩
    rintro ⟨j, hj⟩ rfl
    simp at hj
  rw [isMatch, bne_iff_ne, hsome]
  simp only [carries_ends text r _ _, hstart]
  exact exists_comm.trans (by simp only [exists_and_left])

/-- Between the anchors of the text an expression matches nothing but the whole text. -/
theorem exists_matches_anchored_iff {r : Regex} {captures : Bool} {text : List Char} :
    (∃ i j, i ≤ text.length ∧
      Matches text (concat [look .textStart, group r captures, look .textEnd]) i j) ↔
      Matches text r 0 text.length := by
  simp only [matches_concat, MatchesAll, matches_textStart, matches_group, matches_textEnd]
  constructor
  · rintro ⟨i, j, -, k, ⟨rfl, rfl⟩, k', h, k'', ⟨rfl, -⟩, -⟩
    exact h
  · intro h
    exact ⟨0, text.length, Nat.zero_le _, 0, ⟨rfl, rfl⟩, text.length, h, text.length, ⟨rfl, rfl⟩,
      rfl⟩

end Motif.Regex
