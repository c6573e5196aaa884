import Mathlib.Data.List.Forall2
import Motif.Graph.Lower

/-!
# Tests that have been compiled

What is known of an atom from the test it was compiled from: the kind is the same, and there is one
compiled condition for each constraint, in the same order.

* `ValueTest.compile_eq_ok`: the three ways in which an expected value is compiled.
* `Atom.compile_eq_ok`: what an atom is made of.
-/

namespace Motif.Pattern

/-- The results of a mapped list are those of its members, in order. -/
theorem forall₂_of_mapM {α β ε : Type} {f : α → Except ε β} : ∀ {as : List α} {bs : List β},
    as.mapM f = .ok bs → List.Forall₂ (fun a b => f a = .ok b) as bs
  | [], bs, h => by
    obtain rfl := Except.ok.inj h
    exact .nil
  | a :: as, bs, h => by
    rw [List.mapM_cons] at h
    cases ha : f a with
    | error e =>
      rw [ha] at h
      cases h
    | ok b =>
      cases has : as.mapM f with
      | error e =>
        rw [ha, has] at h
        cases h
      | ok bs' =>
        rw [ha, has] at h
        obtain rfl := Except.ok.inj h
        exact .cons ha (forall₂_of_mapM has)

variable [RegexEngine]

theorem ValueRegex.compile?_eq_some {source flags : String} {r : ValueRegex}
    (h : compile? source flags = some r) : r.source = source ∧ r.flags = flags := by
  unfold compile? at h
  split at h
  · cases h
  · obtain rfl := Option.some.inj h
    exact ⟨rfl, rfl⟩

/-- A text is compared, an expression is compiled, and what has to be present is not looked at. -/
theorem ValueTest.compile_eq_ok {e : Expected} {v : ValueTest} (h : compile e = .ok v) :
    (∃ s, e = .text s ∧ v = .exact s) ∨
    (∃ l r, e = .regex l ∧ r.source = l.source ∧ r.flags = l.flags ∧ v = .regex r) ∨
    (e = .present ∧ v = .present) := by
  unfold compile at h
  split at h
  · exact .inl ⟨_, rfl, (Except.ok.inj h).symm⟩
  · rename_i l
    split at h
    · rename_i r hr
      obtain ⟨hs, hf⟩ := ValueRegex.compile?_eq_some hr
      exact .inr (.inl ⟨l, r, rfl, hs, hf, (Except.ok.inj h).symm⟩)
    · cases h
  · exact .inr (.inr ⟨rfl, (Except.ok.inj h).symm⟩)

/-- An atom has a condition for each constraint of its test. -/
theorem Atom.compile_eq_ok {t : TokenTest} {a : Atom} (h : compile t = .ok a) :
    a.kind = t.kind ∧
      List.Forall₂ (fun c p => PropertyTest.compile c = .ok p) t.constraints a.properties := by
  obtain ⟨ps, hps, rfl⟩ := Graph.map_eq_ok h
  exact ⟨rfl, forall₂_of_mapM hps⟩

end Motif.Pattern
