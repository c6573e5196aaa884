import Motif.Proofs.Language.Meaning
import Motif.Proofs.Pattern.Atom

/-!
# Meanings of trees (specification §4.2 to §4.6, E3)

The words that a pattern accepts, read off its tree: a test takes one token, an anchor its sentinel,
elements follow one another in a group, and the branches of an alternation are a choice. What a
constraint asks of a token is said without the atoms into which tests are compiled.

* `Atom.accepts_iff_holds`: the compiled test of a token asks what the test does.
-/

namespace Motif.Pattern

variable [RegexEngine]

/-! ## Tests of tokens -/

/-- A token has what the constraint asks for. A regular expression has to match the whole value. -/
def Constraint.Holds (c : Constraint) (t : Token) : Prop :=
  match c.value with
  | .text s => t.propertyText? c.name = some s
  | .regex r => ∃ v e, t.propertyText? c.name = some v ∧
      wholeRegex? r.source r.flags = some e ∧ RegexEngine.isMatch e v = true
  | .present => c.name = Token.textName ∨ ∃ v, t.get? c.name = some v ∧ v.isSet = true

/-- A token is of the kind and has what all constraints ask for. -/
def TokenTest.Holds (t : TokenTest) (k : Token) : Prop :=
  (∀ kind ∈ t.kind, k.kind = kind) ∧ ∀ c ∈ t.constraints, c.Holds k

theorem PropertyTest.accepts_iff_holds {c : Constraint} {p : PropertyTest}
    (h : PropertyTest.compile c = .ok p) (t : Token) : p.accepts t = true ↔ c.Holds t := by
  obtain ⟨v, hv, rfl⟩ := Graph.map_eq_ok h
  unfold Constraint.Holds
  rcases ValueTest.compile_eq_ok hv with ⟨s, hs, rfl⟩ | ⟨l, r, hl, hs, hf, rfl⟩ | ⟨hp, rfl⟩
  · rw [hs, PropertyTest.accepts]
    cases t.propertyText? c.name with
    | none => simp
    | some v => simpa [ValueTest.accepts] using eq_comm
  · have he : wholeRegex? l.source l.flags = some r.regex := by
      rw [← hs, ← hf]
      exact r.compiled
    rw [hl, PropertyTest.accepts, Option.any_eq_true]
    simp [ValueTest.accepts, ValueRegex.accepts, he]
  · simp [hp, PropertyTest.accepts, Option.any_eq_true]

theorem all_accepts_iff {cs : List Constraint} {ps : List PropertyTest}
    (h : List.Forall₂ (fun c p => PropertyTest.compile c = .ok p) cs ps) (t : Token) :
    ps.all (·.accepts t) = true ↔ ∀ c ∈ cs, c.Holds t := by
  induction h with
  | nil => simp
  | cons hc _ ih =>
    rw [List.all_cons, Bool.and_eq_true, PropertyTest.accepts_iff_holds hc, ih,
      List.forall_mem_cons]

/-- **The compiled test of a token** asks what the test does. -/
theorem Atom.accepts_iff_holds {t : TokenTest} {a : Atom} (h : Atom.compile t = .ok a)
    (k : Token) : a.accepts k = true ↔ t.Holds k := by
  obtain ⟨hkind, hps⟩ := Atom.compile_eq_ok h
  rw [Atom.accepts, Bool.and_eq_true, all_accepts_iff hps, TokenTest.Holds, hkind]
  refine and_congr ?_ Iff.rfl
  cases t.kind with
  | none => simp
  | some kind => simpa using eq_comm

/-! ## Elements -/

namespace Element

mutual

/-- What an element means. -/
def meaning : Element → Meaning
  | token t => .symbols fun x => ∃ k, x = .token k ∧ t.Holds k
  | anchor s => .symbols (· = .sentinel s)
  | group es => meaningAll es
  | alternation es => meaningAny es
  | negation e => e.meaning.negated
  | repetition e q => e.meaning.repeated q.span

/-- What elements mean that stand one after the other. -/
def meaningAll : List Element → Meaning
  | [] => 1
  | e :: es => e.meaning * meaningAll es

/-- What a choice of elements means. -/
def meaningAny : List Element → Meaning
  | [] => 0
  | e :: es => e.meaning + meaningAny es

end

end Element

end Motif.Pattern
