import Motif.Pattern.Literal

/-!
# Tests of tokens (specification §4.2, E3)

A test of a token begins with the keyword of a kind, or `any`. It may go on with `=` and the text
of the token, and then with further constraints, each after a comma: the name of a property, and
what it is expected to be, or the bare name where it only has to be there.

An expected value is a literal, or everything up to a comma, a closing bracket or a blank.

`readTokenTest` is `parse_token_with_type`, `readExpected` is `parse_value`, and `endsName` is
`is_boundary`.
-/

namespace Motif.Pattern

/-- A character at which a keyword or a name ends. -/
def endsName (c : Char) : Bool :=
  c ∈ [',', '=', ']', ')', '(', '[', '?', '*', '+', '\x7b'] || Text.isBlank c

/-- A character at which a bare value ends. -/
def endsValue (c : Char) : Bool :=
  c ∈ [',', ']', ')'] || Text.isBlank c

/-- The kinds that a keyword admits; `any` admits all. -/
def kindNamed? (keyword : String) : Option (Option Token.Kind) :=
  if keyword = "any" then some none else (Token.Kind.ofKeyword? keyword).map some

/-- Reads an expected value after the `=` of the constraint on `name`, which is at `nameAt`. -/
def readExpected (name : String) (nameAt : Nat) (a : Cursor) : Reading Expected :=
  match a.rest with
  | '\'' :: cs => (readText a.index cs (a.index + 1)).map fun s => .text (.ofList s)
  | '/' :: cs => (readRegex a.index cs (a.index + 1)).map .regex
  | _ =>
    let raw := a.takeWhile (!endsValue ·)
    if raw = [] then .error (.missingValue name nameAt)
    else .ok (.text (.ofList raw), a.dropWhile (!endsValue ·))

/-- Reads a constraint after its comma. -/
def readConstraint (a : Cursor) : Reading Constraint :=
  let name := a.takeWhile (!endsName ·)
  let b := a.dropWhile (!endsName ·)
  if name = [] then .error (.emptyName a.index)
  else
    match b.rest with
    | '=' :: cs =>
      (readExpected (.ofList name) a.index (.past b.index '=' cs)).map (⟨.ofList name, ·⟩)
    | _ => .ok (⟨.ofList name, .present⟩, b)

theorem readExpected_reaches {name : String} {nameAt : Nat} {a b : Cursor} {v : Expected}
    (h : readExpected name nameAt a = .ok (v, b)) : a.Reaches b := by
  unfold readExpected at h
  split at h
  · rename_i hr
    obtain ⟨_, h, _⟩ := Reading.map_eq_ok h
    exact ((Cursor.passes_past hr).trans_reaches (readText_passes h).reaches).reaches
  · rename_i hr
    obtain ⟨_, h, _⟩ := Reading.map_eq_ok h
    exact ((Cursor.passes_past hr).trans_reaches (readRegex_passes h).reaches).reaches
  · dsimp only at h
    split at h
    · cases h
    · obtain ⟨_, rfl⟩ := Prod.mk.inj (Except.ok.inj h)
      exact Cursor.reaches_dropWhile ..

theorem readConstraint_passes {a b : Cursor} {c : Constraint}
    (h : readConstraint a = .ok (c, b)) : a.Passes b := by
  unfold readConstraint at h
  dsimp only at h
  split at h
  · cases h
  · rename_i hne
    have hp := Cursor.passes_dropWhile hne
    split at h
    · rename_i cs hr
      obtain ⟨_, h, _⟩ := Reading.map_eq_ok h
      have hq := (Cursor.passes_past hr).trans_reaches (readExpected_reaches h)
      exact hp.trans_reaches hq.reaches
    · obtain ⟨_, rfl⟩ := Prod.mk.inj (Except.ok.inj h)
      exact hp

/-- Reads constraints as long as commas follow. -/
def readConstraints (a : Cursor) : Reading (List Constraint) :=
  match _hr : a.rest with
  | ',' :: cs =>
    match _h : readConstraint (.past a.index ',' cs) with
    | .error e => .error e
    | .ok (c, b) => (readConstraints b).map (c :: ·)
  | _ => .ok ([], a)
termination_by a.rest.length
decreasing_by
  exact ((Cursor.passes_past _hr).trans_reaches (readConstraint_passes _h).reaches).length_lt

/-- Reads a test of a token. -/
def readTokenTest (a : Cursor) : Reading TokenTest :=
  let keyword := String.ofList (a.takeWhile (!endsName ·))
  let b := a.dropWhile (!endsName ·)
  match kindNamed? keyword with
  | none => .error (.unknownKind keyword a.index)
  | some kind =>
    match b.rest with
    | '=' :: cs =>
      match readExpected Token.textName a.index (.past b.index '=' cs) with
      | .error e => .error e
      | .ok (v, c) => (readConstraints c).map fun cs => ⟨kind, ⟨Token.textName, v⟩ :: cs⟩
    | _ => (readConstraints b).map (⟨kind, ·⟩)

/-! ## Tests are passed -/

theorem readConstraints_reaches {a b : Cursor} {cs : List Constraint}
    (h : readConstraints a = .ok (cs, b)) : a.Reaches b := by
  fun_induction readConstraints a generalizing cs b with
  | case1 => cases h
  | case2 a _ hr _ _ hc ih =>
    obtain ⟨_, h, _⟩ := Reading.map_eq_ok h
    exact ((Cursor.passes_past hr).trans_reaches
      ((readConstraint_passes hc).trans_reaches (ih h)).reaches).reaches
  | case3 =>
    obtain ⟨_, rfl⟩ := Prod.mk.inj (Except.ok.inj h)
    exact .refl _

theorem kindNamed?_empty : kindNamed? "" = none := rfl

theorem readTokenTest_passes {a b : Cursor} {t : TokenTest}
    (h : readTokenTest a = .ok (t, b)) : a.Passes b := by
  unfold readTokenTest at h
  dsimp only at h
  split at h
  · cases h
  · rename_i hk
    have hne : a.takeWhile (!endsName ·) ≠ [] := by
      intro he
      rw [he] at hk
      exact absurd hk (by rw [show String.ofList [] = "" from rfl, kindNamed?_empty]; simp)
    have hp := Cursor.passes_dropWhile hne
    split at h
    · rename_i cs hr
      have hq := hp.trans_reaches (Cursor.passes_past hr).reaches
      split at h
      · cases h
      · rename_i he
        obtain ⟨_, h, _⟩ := Reading.map_eq_ok h
        exact hq.trans_reaches ((readExpected_reaches he).trans (readConstraints_reaches h))
    · obtain ⟨_, h, _⟩ := Reading.map_eq_ok h
      exact hp.trans_reaches (readConstraints_reaches h)

end Motif.Pattern
