import Motif.Pattern.Literal

/-!
# Repetition ranges (specification E3)

A range is written in braces: one number for exactly that many repetitions, or a comma with a bound
on either side of it. Numbers are decimal and stay below 2 ^ 32.

`readNumber` is `read_number`, and `readRange` is `parse_repetition_range` after the opening brace.
-/

namespace Motif.Pattern

/-- The number that a text of decimal digits denotes. -/
def decimalValue (digits : List Char) : Nat :=
  digits.foldl (fun n c => 10 * n + (c.toNat - '0'.toNat)) 0

/-- Reads a number, or nothing where there is no digit. -/
def readNumber (a : Cursor) : Reading (Option UInt32) :=
  let digits := a.takeWhile Char.isDigit
  let b := a.dropWhile Char.isDigit
  if digits = [] then .ok (none, b)
  else if decimalValue digits < UInt32.size then .ok (some (.ofNat (decimalValue digits)), b)
  else .error (.invalidRange .tooLarge a.index)

/-- The span with the given bounds, unless no count lies within them; `start` is the place of the
range. -/
def checkedSpan (start : Nat) (min : UInt32) (max : Option UInt32) : Except Fault Span :=
  if max = some 0 then .error (.invalidRange .emptyUpTo start)
  else if max.any (· < min) then .error (.invalidRange .reversed start)
  else .ok ⟨min, max⟩

/-- Reads the end of a range with the given bounds. -/
def readRangeEnd (start : Nat) (min : UInt32) (max : Option UInt32) (a : Cursor) : Reading Span :=
  match a.rest with
  | '\x7d' :: cs => (checkedSpan start min max).map (·, .past a.index '\x7d' cs)
  | _ :: _ => .error (.invalidRange .notDecimal start)
  | [] => .error (.unclosedRange start)

/-- Reads the rest of a range after the opening brace at `start`. -/
def readRange (start : Nat) (a : Cursor) : Reading Span :=
  match readNumber a with
  | .error e => .error e
  | .ok (min, b) =>
    match b.rest with
    | ',' :: cs =>
      match readNumber (.past b.index ',' cs) with
      | .error e => .error e
      | .ok (max, c) => readRangeEnd start (min.getD 0) max c
    | '\x7d' :: _ =>
      match min with
      | some count => readRangeEnd start count (some count) b
      | none => .error (.invalidRange .noCount start)
    | _ :: _ => .error (.invalidRange .notDecimal start)
    | [] => .error (.unclosedRange start)

/-! ## Ranges are passed -/

theorem readNumber_reaches {a b : Cursor} {n : Option UInt32}
    (h : readNumber a = .ok (n, b)) : a.Reaches b := by
  unfold readNumber at h
  dsimp only at h
  split at h
  · obtain ⟨_, rfl⟩ := Prod.mk.inj (Except.ok.inj h)
    exact Cursor.reaches_dropWhile ..
  · split at h
    · obtain ⟨_, rfl⟩ := Prod.mk.inj (Except.ok.inj h)
      exact Cursor.reaches_dropWhile ..
    · cases h

theorem map_pair_eq_ok {α β ε : Type} {r : Except ε α} {b c : β} {a : α}
    (h : r.map (·, c) = .ok (a, b)) : c = b := by
  cases r with
  | error e => cases h
  | ok x => exact (Prod.mk.inj (Except.ok.inj h)).2

theorem readRangeEnd_reaches {start : Nat} {min : UInt32} {max : Option UInt32} {a b : Cursor}
    {s : Span} (h : readRangeEnd start min max a = .ok (s, b)) : a.Reaches b := by
  unfold readRangeEnd at h
  split at h
  · rename_i hc
    obtain rfl := map_pair_eq_ok h
    exact (Cursor.passes_past hc).reaches
  · cases h
  · cases h

theorem readRange_reaches {start : Nat} {a b : Cursor} {s : Span}
    (h : readRange start a = .ok (s, b)) : a.Reaches b := by
  unfold readRange at h
  split at h
  · cases h
  · rename_i hn
    have hr := readNumber_reaches hn
    split at h
    · rename_i hc
      split at h
      · cases h
      · rename_i hm
        exact (hr.trans (Cursor.passes_past hc).reaches).trans
          ((readNumber_reaches hm).trans (readRangeEnd_reaches h))
    · split at h
      · exact hr.trans (readRangeEnd_reaches h)
      · cases h
    · cases h
    · cases h

end Motif.Pattern
