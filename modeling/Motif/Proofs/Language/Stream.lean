import Mathlib
import Motif.Proofs.Language.Thread
import Motif.Proofs.Match.Calls
import Motif.Proofs.Notation.Sound
import Motif.Regex.Standard

/-!
# Matches in streams (specification §4.7, E4)

A matcher says that there is a match where some of the last symbols are a word of the pattern. What
its threads can still read is compared with what is awaited: the rests of words of which some of the
symbols that count are the beginning. The threads never read anything that is not awaited
(`Matcher.Sound`), whatever is dropped, and everything that is as long as nothing is dropped
(`Matcher.Complete`).

Out of scope: which of the attempts that end at a token is the match. A matcher does not say where a
match begins.

* `Matcher.Sound.call`, `Matcher.Complete.call`: what a call preserves.
* **`add_eq_true_iff_endsAt`**: what a matcher answers as long as it drops no threads.
* **`endsAt_of_add_eq_true`**: what an answer is worth if it does.
-/

namespace Motif

open Motif.Graph

/-! ## Words at the end of what was read -/

namespace Meaning

/-- Some of the last symbols of `s`, and at least one, are a word of `a`. -/
def EndsAt (a : Meaning) (s : List Symbol) : Prop :=
  ∃ w, w ≠ [] ∧ w <:+ s ∧ w ∈ a.accepted

/-- What is missing, and at least one symbol, where some of the last symbols of `past` are the
beginning of a word of `a`. -/
def awaited (a : Meaning) (past : List Symbol) : Set (List Symbol) :=
  {w | w ≠ [] ∧ ∃ v, v ≠ [] ∧ v <:+ past ∧ v ++ w ∈ a.accepted}

/-- Nothing is awaited where nothing was read. -/
theorem notMem_awaited_nil {a : Meaning} {w : List Symbol} : w ∉ a.awaited [] := by
  rintro ⟨-, v, hv, hs, -⟩
  exact hv (List.suffix_nil.mp hs)

theorem exists_suffix_concat {past : List Symbol} {x : Symbol} {p : List Symbol → Prop} :
    (∃ v, v ≠ [] ∧ v <:+ past ++ [x] ∧ p v) ↔
      (∃ u, u ≠ [] ∧ u <:+ past ∧ p (u ++ [x])) ∨ p [x] := by
  constructor
  · rintro ⟨v, hv, hs, hp⟩
    obtain ⟨u, rfl, hu⟩ := (List.suffix_concat_iff.mp hs).resolve_left hv
    by_cases h : u = []
    · subst h
      exact .inr hp
    · exact .inl ⟨u, h, hu, hp⟩
  · rintro (⟨u, -, hu, hp⟩ | hp)
    · exact ⟨u ++ [x], by simp, List.suffix_concat_iff.mpr (.inr ⟨u, rfl, hu⟩), hp⟩
    · exact ⟨[x], by simp, List.suffix_append past [x], hp⟩

/-- A word ends with a symbol that is awaited, or it is that symbol. -/
theorem endsAt_concat {a : Meaning} {past : List Symbol} {x : Symbol} :
    a.EndsAt (past ++ [x]) ↔ [x] ∈ a.awaited past ∨ [x] ∈ a.accepted := by
  rw [EndsAt, exists_suffix_concat]
  exact or_congr_left (and_iff_right (by simp)).symm

/-- What is awaited after a symbol begins with that symbol before it, or a word does. -/
theorem mem_awaited_concat {a : Meaning} {past w : List Symbol} {x : Symbol} (hw : w ≠ []) :
    w ∈ a.awaited (past ++ [x]) ↔ x :: w ∈ a.awaited past ∨ x :: w ∈ a.accepted := by
  show w ≠ [] ∧ _ ↔ _
  rw [and_iff_right hw, exists_suffix_concat]
  refine or_congr_left ?_
  simp only [List.append_assoc, List.singleton_append]
  exact (and_iff_right (by simp)).symm

end Meaning

/-! ## Threads after what was read -/

section Threads

variable [RegexEngine] {g : Graph} {counting : Pattern.Counting} {past : List Symbol}
  {threads : List Thread} {x : Symbol}

/-- What the threads can still read is awaited after `past`. -/
def Sound (g : Graph) (past : List Symbol) (threads : List Thread) : Prop :=
  ∀ w ∈ (threadsMeaning g threads).accepted, w ≠ [] → w ∈ (g.meaning g.entry).awaited past

/-- What is awaited after `past` can still be read by the threads. -/
def Complete (g : Graph) (past : List Symbol) (threads : List Thread) : Prop :=
  ∀ w ∈ (g.meaning g.entry).awaited past, w ∈ (threadsMeaning g threads).accepted

theorem sound_nil (past : List Symbol) : Sound g past [] :=
  fun w hw => absurd hw (Language.notMem_zero w)

theorem complete_nil : Complete g [] [] :=
  fun _ hw => absurd hw Meaning.notMem_awaited_nil

/-- Dropping threads makes nothing unsound. -/
theorem Sound.mono {ts : List Thread} (h : Sound g past threads) (hs : ts ⊆ threads) :
    Sound g past ts := by
  intro w hw
  obtain ⟨t, ht, hw⟩ := mem_threadsMeaning_accepted.mp hw
  exact h w (mem_threadsMeaning_accepted.mpr ⟨t, hs ht, hw⟩)

/-- A step is complete with a symbol that the threads or a new attempt can read as the last. -/
theorem step_completed (hc : counting.Adequate) :
    (g.step counting threads x).completed = true ↔
      [x] ∈ (threadsMeaning g threads).accepted ∨ [x] ∈ (g.meaning g.entry).accepted :=
  (takes_step hc threads).completed

/-- What can be read after a step. -/
theorem mem_step (hc : counting.Adequate) {w : List Symbol} (hw : w ≠ []) :
    w ∈ (threadsMeaning g (g.step counting threads x).threads).accepted ↔
      x :: w ∈ (threadsMeaning g threads).accepted ∨
        x :: w ∈ (g.meaning g.entry).accepted := by
  have hs : Takes g x (g.step counting threads x) _ := takes_step hc threads
  have hleft : w ∈ ((g.step counting threads x).meaning g).accepted ↔
      w ∈ (threadsMeaning g (g.step counting threads x).threads).accepted := by
    rw [Report.meaning, Meaning.add_accepted, Language.mem_add, Meaning.mem_proper,
      Meaning.mem_emptyIf, and_iff_right hw, or_iff_left fun h => hw h.2]
  rw [← hleft, hs.left]
  exact Iff.rfl

theorem Sound.step (hc : counting.Adequate) (h : Sound g past threads) (x : Symbol) :
    Sound g (past ++ [x]) (g.step counting threads x).threads := by
  intro w hw hne
  rw [Meaning.mem_awaited_concat hne]
  exact ((mem_step hc hne).mp hw).imp_left fun hw => h _ hw (by simp)

theorem Complete.step (hc : counting.Adequate) (h : Complete g past threads) (x : Symbol) :
    Complete g (past ++ [x]) (g.step counting threads x).threads := by
  intro w hw
  rw [mem_step hc hw.1]
  exact ((Meaning.mem_awaited_concat hw.1).mp hw).imp_left fun hw => h _ hw

theorem Sound.endsAt (hc : counting.Adequate) (h : Sound g past threads)
    (hx : (g.step counting threads x).completed = true) :
    (g.meaning g.entry).EndsAt (past ++ [x]) :=
  Meaning.endsAt_concat.mpr
    (((step_completed hc).mp hx).imp_left fun hw => h _ hw (by simp))

theorem Complete.completed (hc : counting.Adequate) (h : Complete g past threads)
    (hx : (g.meaning g.entry).EndsAt (past ++ [x])) :
    (g.step counting threads x).completed = true :=
  (step_completed hc).mpr ((Meaning.endsAt_concat.mp hx).imp_left (h _))

theorem Sound.distinct {r : Report} (h : Sound g past r.threads) : Sound g past r.distinct :=
  h.mono fun t ht => by rwa [Report.distinct_eq, List.mem_eraseDups] at ht

theorem Complete.distinct {r : Report} (h : Complete g past r.threads) :
    Complete g past r.distinct := by
  rwa [Complete, threadsMeaning_distinct]

end Threads

/-! ## Matchers in the middle of a stream -/

namespace Matcher

variable [RegexEngine] {m : Matcher} {past : List Symbol} {t : Token} {c : Call}

/-- What the threads of a matcher can still read is awaited after `past`. -/
structure Sound (m : Matcher) (past : List Symbol) : Prop where
  counting : m.counting.Adequate
  threads : Motif.Sound m.pattern.graph past m.primed

/-- What is awaited after `past` can still be read by the threads of a matcher. -/
structure Complete (m : Matcher) (past : List Symbol) : Prop where
  counting : m.counting.Adequate
  threads : Motif.Complete m.pattern.graph past m.primed

theorem sound_reset (hc : m.counting.Adequate) : m.reset.Sound [.sentinel .start] where
  counting := hc
  threads := by
    show Motif.Sound m.pattern.graph [.sentinel .start] (if _ then _ else [])
    split
    · exact ((sound_nil []).step hc (.sentinel .start)).distinct
    · exact sound_nil _

theorem complete_reset (hc : m.counting.Adequate) : m.reset.Complete [.sentinel .start] where
  counting := hc
  threads := by
    show Motif.Complete m.pattern.graph [.sentinel .start] (if _ then _ else [])
    split
    · exact (complete_nil.step hc (.sentinel .start)).distinct
    · rename_i h
      rintro w ⟨-, v, hv, hs, hw⟩
      have hno : m.pattern.graph.hasStartAnchor = false := Bool.not_eq_true _ ▸ h
      have hs : v <:+ [] ++ [.sentinel .start] := hs
      obtain ⟨u, rfl, hu⟩ := (List.suffix_concat_iff.mp hs).resolve_left hv
      exact absurd (by simp) (avoids_start hno _ _ hw)

/-- The answer to a token. -/
theorem Sound.add (h : m.Sound past) (ha : (m.add t).1 = true) :
    m.skips t = false ∧
      (m.pattern.graph.meaning m.pattern.graph.entry).EndsAt (past ++ [.token t]) := by
  obtain ⟨hs, hr, -⟩ := add_of_matched ha
  exact ⟨hs, h.threads.endsAt h.counting hr⟩

theorem Complete.add (h : m.Complete past) (hs : m.skips t = false)
    (he : (m.pattern.graph.meaning m.pattern.graph.entry).EndsAt (past ++ [.token t])) :
    (m.add t).1 = true := by
  rw [add_fst_of_not_skips hs]
  exact h.threads.completed h.counting he

theorem Sound.finish (h : m.Sound past) (ha : m.finish.1 = true) :
    (m.pattern.graph.meaning m.pattern.graph.entry).EndsAt (past ++ [.sentinel .finish]) :=
  h.threads.endsAt h.counting ha

theorem Complete.finish (h : m.Complete past)
    (he : (m.pattern.graph.meaning m.pattern.graph.entry).EndsAt (past ++ [.sentinel .finish])) :
    m.finish.1 = true :=
  h.threads.completed h.counting he

/-- What the threads can read stays awaited, also where some of them are dropped. -/
theorem Sound.call (h : m.Sound past) (c : Call) : (m.call c).2.Sound (m.heard past c) := by
  cases c with
  | finish => exact ⟨h.counting, h.threads⟩
  | reset => exact sound_reset h.counting
  | add t =>
    rw [Matcher.call, heard]
    rcases m.add_cases t with ⟨hs, hm⟩ | ⟨hs, -, hm⟩ | ⟨hs, -, hm⟩
    · rw [if_pos hs, hm]
      exact ⟨h.counting, h.threads⟩
    · rw [hs, hm]
      exact ⟨h.counting, sound_nil []⟩
    · rw [hs, hm]
      refine ⟨h.counting, ?_⟩
      exact (h.threads.step h.counting (.token t)).distinct.mono (List.take_subset _ _)

/-- What is awaited can still be read as long as no thread is dropped. -/
theorem Complete.call (h : m.Complete past) (hk : m.Keeps c) :
    (m.call c).2.Complete (m.heard past c) := by
  cases c with
  | finish => exact ⟨h.counting, h.threads⟩
  | reset => exact complete_reset h.counting
  | add t =>
    rw [Keeps] at hk
    rw [Matcher.call, heard]
    rcases m.add_cases t with ⟨hs, hm⟩ | ⟨hs, -, hm⟩ | ⟨hs, -, hm⟩
    · rw [if_pos hs, hm]
      exact ⟨h.counting, h.threads⟩
    · rw [hs, hm]
      exact ⟨h.counting, complete_nil⟩
    · rw [hm] at hk
      rw [hs, hm, List.take_of_length_le (hk hs rfl)]
      exact ⟨h.counting, (h.threads.step h.counting (.token t)).distinct⟩

theorem Sound.after (h : m.Sound past) (calls : List Call) :
    (m.after calls).Sound (m.pastFrom past calls) := by
  induction calls generalizing m past with
  | nil => exact h
  | cons c cs ih => exact ih (h.call c)

theorem Complete.after {calls : List Call} (h : m.Complete past) (hk : m.KeepsAll calls) :
    (m.after calls).Complete (m.pastFrom past calls) := by
  induction calls generalizing m past with
  | nil => exact h
  | cons c cs ih => exact ih (h.call hk.1) hk.2

end Matcher

/-! ## Compiled patterns -/

section Compiled

variable [RegexEngine] {source : String} {es : List Pattern.Element} {options : Options}
  {p : CompiledPattern}

/-- The entry of a compiled pattern means what the elements of the pattern do. -/
theorem meaning_entry (hs : Pattern.parse source = .ok es)
    (hp : CompiledPattern.ofElements es source options = .ok p) :
    p.graph.meaning p.graph.entry = Pattern.Element.meaningAll es := by
  obtain ⟨g, hg, rfl⟩ := Graph.map_eq_ok hp
  cases lowered_ofElements hg with
  | group hes hne hn =>
    rw [Graph.meaning_eq hn]
    exact (hes.meaning_eq (Pattern.parse_wellFormed hs).2).trans (mul_one _)

theorem matcher_sound (p : CompiledPattern) : p.matcher.Sound [.sentinel .start] :=
  Matcher.sound_reset (m := p.matcher) Pattern.adequate_next

theorem matcher_complete (p : CompiledPattern) : p.matcher.Complete [.sentinel .start] :=
  Matcher.complete_reset (m := p.matcher) Pattern.adequate_next

/-- **A matcher answers what the elements of its pattern say**, at any point of a run in which it
has not dropped threads: a token that is not passed over, and so also the end, is a match iff it is
the last symbol of a word whose other symbols were read just before it and count. -/
theorem add_eq_true_iff_endsAt (hs : Pattern.parse source = .ok es)
    (hp : CompiledPattern.ofElements es source options = .ok p) {calls : List Call}
    (hk : p.matcher.KeepsAll calls) :
    (∀ t, (p.matcher.after calls).skips t = true → ((p.matcher.after calls).add t).1 = false) ∧
    (∀ t, (p.matcher.after calls).skips t = false →
      (((p.matcher.after calls).add t).1 = true ↔
        (Pattern.Element.meaningAll es).EndsAt (p.past calls ++ [.token t]))) ∧
    ((p.matcher.after calls).finish.1 = true ↔
      (Pattern.Element.meaningAll es).EndsAt (p.past calls ++ [.sentinel .finish])) := by
  have hpat : (p.matcher.after calls).pattern = p := Matcher.after_pattern _ _
  have hsound := (matcher_sound p).after calls
  have hcomplete := (matcher_complete p).after hk
  rw [← meaning_entry hs hp]
  refine ⟨fun t ht => by rw [Matcher.add_of_skips ht], fun t ht => ⟨fun ha => ?_, fun he => ?_⟩,
    fun ha => ?_, fun he => ?_⟩
  · have h := (hsound.add ha).2
    rwa [hpat] at h
  · exact hcomplete.add ht (by rwa [hpat])
  · have h := hsound.finish ha
    rwa [hpat] at h
  · exact hcomplete.finish (by rwa [hpat])

end Compiled

/-- A matcher for the literal `'a'` that has not taken the token `b` as a match. -/
theorem add_eq_true_iff_endsAt_literal :
    ∃ p, CompiledPattern.ofElements [.token ⟨none, [⟨"text", .text "a"⟩]⟩] "'a'" {} = .ok p ∧
      p.matcher.KeepsAll [.add { text := "b" }] ∧
      (((p.matcher.after [.add { text := "b" }]).add { text := "a" }).1 = true ↔
        (Pattern.Element.meaningAll [.token ⟨none, [⟨"text", .text "a"⟩]⟩]).EndsAt
          (p.past [.add { text := "b" }] ++ [.token { text := "a" }])) := by
  have hs : Pattern.parse "'a'" = .ok [.token ⟨none, [⟨"text", .text "a"⟩]⟩] := by cbv
  refine ⟨_, rfl, ?keeps, (add_eq_true_iff_endsAt hs rfl ?keeps).2.1 _ rfl⟩
  exact ⟨Matcher.keeps_of_run_eq (show _ = ∅ by cbv) (Nat.zero_le _), trivial⟩

section Dropping

variable [RegexEngine] {source : String} {es : List Pattern.Element} {options : Options}
  {p : CompiledPattern}

/-- Whatever a matcher that may drop threads takes as a match, one that drops none does, too. -/
theorem Matcher.Sound.call_fst_le {m n : Matcher} {past : List Symbol} {c : Call}
    (hm : m.Sound past) (hn : n.Complete past) (hg : m.pattern.graph = n.pattern.graph)
    (hw : m.pattern.options.includeWhitespace = n.pattern.options.includeWhitespace)
    (h : (m.call c).1 = true) : (n.call c).1 = true := by
  cases c with
  | add t =>
    obtain ⟨hs, he⟩ := hm.add h
    exact hn.add ((Matcher.skips_congr hw t).symm.trans hs) (hg ▸ he)
  | finish => exact hn.finish (hg ▸ hm.finish h)
  | reset => exact h

/-- Two matchers for one pattern in one run, the second of which drops no threads: as long as
neither has had a match, the same symbols count for both, so the second has one no later. -/
theorem idxOf_answers_le {m n : Matcher} {past : List Symbol} {calls : List Call}
    (hm : m.Sound past) (hn : n.Complete past) (hg : m.pattern.graph = n.pattern.graph)
    (hw : m.pattern.options.includeWhitespace = n.pattern.options.includeWhitespace)
    (hk : n.KeepsAll calls) : (n.answers calls).idxOf true ≤ (m.answers calls).idxOf true := by
  induction calls generalizing m n past with
  | nil => exact Nat.le_refl _
  | cons c cs ih =>
    have hmc := hm.call c
    have hnc := hn.call hk.1
    have hle : (m.call c).1 = true → (n.call c).1 = true := hm.call_fst_le hn hg hw
    rw [Matcher.answers, Matcher.answers, List.idxOf_cons, List.idxOf_cons]
    cases hnb : (n.call c).1 with
    | true => exact Nat.zero_le _
    | false =>
      have hmb : (m.call c).1 = false := Bool.eq_false_iff.mpr fun h => by simp [hle h] at hnb
      rw [hmb]
      refine Nat.succ_le_succ (ih hmc ?_ ?_ ?_ hk.2)
      · rwa [Matcher.heard_congr hw (hmb.trans hnb.symm)]
      · rw [Matcher.call_pattern, Matcher.call_pattern, hg]
      · rw [Matcher.call_pattern, Matcher.call_pattern, hw]

/-- **A match is never made up**, whatever threads are dropped: a token that is taken as a match,
and so also the end, is the last symbol of a word whose other symbols were read just before it and
count. So no match comes earlier than the first that a matcher has, for the same pattern in the
same run, which drops no threads. -/
theorem endsAt_of_add_eq_true (hs : Pattern.parse source = .ok es)
    (hp : CompiledPattern.ofElements es source options = .ok p) (calls : List Call) :
    (∀ t, ((p.matcher.after calls).add t).1 = true →
      (p.matcher.after calls).skips t = false ∧
        (Pattern.Element.meaningAll es).EndsAt (p.past calls ++ [.token t])) ∧
    ((p.matcher.after calls).finish.1 = true →
      (Pattern.Element.meaningAll es).EndsAt (p.past calls ++ [.sentinel .finish])) ∧
    ∀ (maxThreads : UInt64) (q : CompiledPattern),
      CompiledPattern.ofElements es source { options with maxThreads } = .ok q →
        ∀ before later : List Call, (q.matcher.after before).reset.KeepsAll later →
          ((q.matcher.after before).reset.answers later).idxOf true ≤
            ((p.matcher.after calls).reset.answers later).idxOf true := by
  have hpat : (p.matcher.after calls).pattern = p := Matcher.after_pattern _ _
  have hsound := (matcher_sound p).after calls
  rw [← meaning_entry hs hp]
  refine ⟨fun t ha => ?_, fun ha => ?_, fun maxThreads q hq before later hk => ?_⟩
  · have h := hsound.add ha
    rwa [hpat] at h
  · have h := hsound.finish ha
    rwa [hpat] at h
  · have hpat' : (q.matcher.after before).pattern = q := Matcher.after_pattern _ _
    have hcounting : (q.matcher.after before).counting.Adequate := by
      rw [Matcher.after_counting]
      exact Pattern.adequate_next
    have hpq : p.graph = q.graph ∧ p.options.includeWhitespace = q.options.includeWhitespace := by
      obtain ⟨g, hg, rfl⟩ := Graph.map_eq_ok hp
      obtain ⟨g', hg', rfl⟩ := Graph.map_eq_ok hq
      exact ⟨Except.ok.inj (hg.symm.trans hg'), rfl⟩
    rw [← Matcher.reset_pattern] at hpat hpat'
    have hgraph : (p.matcher.after calls).reset.pattern.graph =
        (q.matcher.after before).reset.pattern.graph := by
      rw [hpat, hpat', hpq.1]
    have hspace : (p.matcher.after calls).reset.pattern.options.includeWhitespace =
        (q.matcher.after before).reset.pattern.options.includeWhitespace := by
      rw [hpat, hpat', hpq.2]
    exact idxOf_answers_le (Matcher.sound_reset hsound.counting) (Matcher.complete_reset hcounting)
      hgraph hspace hk

end Dropping

/-- A matcher for the literal `'a'` with room for a single thread. -/
theorem endsAt_of_add_eq_true_literal :
    ∃ p, CompiledPattern.ofElements [.token ⟨none, [⟨"text", .text "a"⟩]⟩] "'a'"
        { maxThreads := 0 } = .ok p ∧
      ((p.matcher.after [.add { text := "b" }]).add { text := "a" }).1 = true ∧
      (Pattern.Element.meaningAll [.token ⟨none, [⟨"text", .text "a"⟩]⟩]).EndsAt
        (p.past [.add { text := "b" }] ++ [.token { text := "a" }]) := by
  have hs : Pattern.parse "'a'" = .ok [.token ⟨none, [⟨"text", .text "a"⟩]⟩] := by cbv
  refine ⟨_, rfl, ?matched, ((endsAt_of_add_eq_true hs rfl _).1 _ ?matched).2⟩
  cbv

end Motif
