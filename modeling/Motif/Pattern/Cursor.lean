import Motif.Text.Blank
import Motif.Total

/-!
# Cursors (specification E1.1)

A cursor is a place in the text of a pattern: the characters that are left, and the byte index of
the first of them in the UTF-8 form of the text. Cursors only move forward. `a.Reaches b` says that
`b` is `a` moved over some characters, `a.Passes b` that it is moved over at least one; both carry
the byte index along, so an index taken anywhere while reading is the index of a character.

`takeWhile` and `dropWhile` are both sides of `take_until`, for the opposite test.
-/

namespace Motif.Pattern

/-- The length of a text in UTF-8. -/
def byteLength (cs : List Char) : Nat :=
  total (cs.map Char.utf8Size)

@[simp] theorem byteLength_nil : byteLength [] = 0 := rfl

@[simp] theorem byteLength_cons (c : Char) (cs : List Char) :
    byteLength (c :: cs) = c.utf8Size + byteLength cs := rfl

@[simp] theorem byteLength_append (cs ds : List Char) :
    byteLength (cs ++ ds) = byteLength cs + byteLength ds := by
  simp [byteLength]

/-- A place in a pattern: the characters left, and the byte index of the first of them. -/
structure Cursor where
  rest : List Char
  index : Nat
  deriving DecidableEq

namespace Cursor

/-- The start of a text. -/
def ofString (s : String) : Cursor :=
  ⟨s.toList, 0⟩

/-- The cursor before `rest` that is reached by moving over the character `c`. -/
def past (index : Nat) (c : Char) (rest : List Char) : Cursor :=
  ⟨rest, index + c.utf8Size⟩

/-- The characters up to the first that does not satisfy `p`. -/
def takeWhile (p : Char → Bool) (a : Cursor) : List Char :=
  a.rest.takeWhile p

/-- The cursor at the first character that does not satisfy `p`. -/
def dropWhile (p : Char → Bool) (a : Cursor) : Cursor :=
  ⟨a.rest.dropWhile p, a.index + byteLength (a.rest.takeWhile p)⟩

/-! ## Moving forward -/

/-- `b` is `a` moved over some characters. -/
def Reaches (a b : Cursor) : Prop :=
  ∃ used, a.rest = used ++ b.rest ∧ b.index = a.index + byteLength used

/-- `b` is `a` moved over at least one character. -/
def Passes (a b : Cursor) : Prop :=
  ∃ c used, a.rest = c :: used ++ b.rest ∧ b.index = a.index + byteLength (c :: used)

theorem Reaches.refl (a : Cursor) : a.Reaches a :=
  ⟨[], rfl, rfl⟩

theorem Passes.reaches {a b : Cursor} : a.Passes b → a.Reaches b
  | ⟨c, used, h, hi⟩ => ⟨c :: used, h, hi⟩

theorem Reaches.trans {a b c : Cursor} : a.Reaches b → b.Reaches c → a.Reaches c
  | ⟨u, hu, hi⟩, ⟨v, hv, hj⟩ =>
    ⟨u ++ v, by simp [hu, hv], by simp [hi, hj, Nat.add_assoc]⟩

theorem Passes.trans_reaches {a b c : Cursor} : a.Passes b → b.Reaches c → a.Passes c
  | ⟨x, u, hu, hi⟩, ⟨v, hv, hj⟩ =>
    ⟨x, u ++ v, by simp [hu, hv], by simp [hi, hj, Nat.add_assoc]⟩

/-- Moving over a character leaves less. -/
theorem Passes.length_lt {a b : Cursor} : a.Passes b → b.rest.length < a.rest.length
  | ⟨_, used, h, _⟩ => by
    rw [h]
    simp only [List.cons_append, List.length_cons, List.length_append]
    omega

theorem passes_past {a : Cursor} {c : Char} {cs : List Char} (h : a.rest = c :: cs) :
    a.Passes (past a.index c cs) :=
  ⟨c, [], h, rfl⟩

theorem reaches_dropWhile (p : Char → Bool) (a : Cursor) : a.Reaches (a.dropWhile p) :=
  ⟨a.rest.takeWhile p, List.takeWhile_append_dropWhile.symm, rfl⟩

theorem passes_dropWhile {p : Char → Bool} {a : Cursor} (h : a.takeWhile p ≠ []) :
    a.Passes (a.dropWhile p) := by
  obtain ⟨c, cs, hc⟩ := List.exists_cons_of_ne_nil h
  refine ⟨c, cs, ?_, congrArg (a.index + byteLength ·) hc⟩
  rw [← hc]
  exact List.takeWhile_append_dropWhile.symm

end Cursor

end Motif.Pattern
