import Motif.Pattern.Cursor
import Motif.Pattern.Element
import Motif.Pattern.Fault

/-!
# Literals (specification E3)

A text stands between quotes, in which a backslash escapes a quote, a backslash, or the letter of a
line feed, a carriage return or a tab. A regular expression stands between slashes; only an escaped
slash is rewritten there, every other escape is part of the expression. Its flags follow at once.

`readText` and `readRegex` read character by character what `read_string` and `read_regex` read;
that scanning by bytes makes no difference is shown of `Motif.Pattern.Scanner`.
-/

namespace Motif.Pattern

/-- A result of reading: what was read and where reading goes on. -/
abbrev Reading (α : Type) := Except Fault (α × Cursor)

namespace Reading

/-- Rewrites what was read. -/
def map {α β : Type} (f : α → β) (r : Reading α) : Reading β :=
  Except.map (Prod.map f id) r

theorem map_eq_ok {α β : Type} {f : α → β} {r : Reading α} {b : β} {c : Cursor}
    (h : r.map f = .ok (b, c)) : ∃ a, r = .ok (a, c) ∧ f a = b := by
  match r, h with
  | .ok (a, d), h =>
    obtain ⟨rfl, rfl⟩ := Prod.mk.inj (Except.ok.inj h)
    exact ⟨a, rfl, rfl⟩

end Reading

/-! ## Texts -/

/-- The character that an escape in a text stands for. -/
def unescape? : Char → Option Char
  | 'n' => some '\n'
  | 'r' => some '\r'
  | 't' => some '\t'
  | '\\' => some '\\'
  | '\'' => some '\''
  | _ => none

/-- Reads the rest of a text, `i` being the index of the next character and `start` that of the
opening quote. -/
def readText (start : Nat) : List Char → (i : Nat) → Reading (List Char)
  | [], _ => .error (.unclosedText start)
  | '\'' :: cs, i => .ok ([], .past i '\'' cs)
  | ['\\'], i => .error (.loneEscape i)
  | '\\' :: e :: cs, i =>
    match unescape? e with
    | some c => (readText start cs (i + byteLength ['\\', e])).map (c :: ·)
    | none => .error (.unknownEscape e i)
  | c :: cs, i => (readText start cs (i + c.utf8Size)).map (c :: ·)

/-! ## Regular expressions -/

/-- The letters that may follow a regular expression. -/
def regexFlags : List Char :=
  ['i', 'm', 's', 'x']

/-- Reads the rest of a regular expression, `i` being the index of the next character and `start`
that of the opening slash. -/
def readSource (start : Nat) : List Char → (i : Nat) → Reading (List Char)
  | [], _ => .error (.unclosedRegex start)
  | '/' :: cs, i => .ok ([], .past i '/' cs)
  | ['\\'], i => .error (.loneEscape i)
  | '\\' :: '/' :: cs, i => (readSource start cs (i + byteLength ['\\', '/'])).map ('/' :: ·)
  | '\\' :: e :: cs, i =>
    (readSource start cs (i + byteLength ['\\', e])).map fun s => '\\' :: e :: s
  | c :: cs, i => (readSource start cs (i + c.utf8Size)).map (c :: ·)

/-- Reads flags up to the first character that is no ASCII letter; `seen` are those before. -/
def readFlags (seen : List Char) : List Char → (i : Nat) → Reading (List Char)
  | [], i => .ok ([], ⟨[], i⟩)
  | c :: cs, i =>
    if c.isAlpha then
      if c ∈ regexFlags ∧ c ∉ seen then (readFlags (c :: seen) cs (i + c.utf8Size)).map (c :: ·)
      else .error (.unknownRegexFlag c i)
    else .ok ([], ⟨c :: cs, i⟩)

/-- Reads a regular expression and its flags after the opening slash at `start`. -/
def readRegex (start : Nat) (cs : List Char) (i : Nat) : Reading RegexLiteral :=
  match readSource start cs i with
  | .error e => .error e
  | .ok (source, a) =>
    (readFlags [] a.rest a.index).map fun flags => ⟨.ofList source, .ofList flags, start⟩

/-- A character is no backslash if it stands neither alone as one nor before another. -/
theorem ne_backslash {c : Char} {cs : List Char} (hlast : c = '\\' → cs = [] → False)
    (hpair : ∀ (e : Char) (ds : List Char), c = '\\' → cs = e :: ds → False) : c ≠ '\\' := by
  rintro rfl
  cases cs with
  | nil => exact hlast rfl rfl
  | cons e ds => exact hpair e ds rfl rfl

/-! ## Literals are passed -/

theorem readText_passes {start : Nat} {cs : List Char} {i : Nat} {s : List Char} {a : Cursor}
    (h : readText start cs i = .ok (s, a)) : Cursor.Passes ⟨cs, i⟩ a := by
  fun_induction readText start cs i generalizing s a with
  | case1 => cases h
  | case2 cs i =>
    obtain ⟨_, rfl⟩ := Prod.mk.inj (Except.ok.inj h)
    exact Cursor.passes_past rfl
  | case3 => cases h
  | case4 e cs i c _ ih =>
    obtain ⟨_, h, _⟩ := Reading.map_eq_ok h
    exact Cursor.Passes.trans_reaches ⟨'\\', [e], rfl, rfl⟩ (ih h).reaches
  | case5 => cases h
  | case6 c cs i _ _ _ ih =>
    obtain ⟨_, h, _⟩ := Reading.map_eq_ok h
    exact (Cursor.passes_past (a := ⟨c :: cs, i⟩) rfl).trans_reaches (ih h).reaches

theorem readSource_passes {start : Nat} {cs : List Char} {i : Nat} {s : List Char} {a : Cursor}
    (h : readSource start cs i = .ok (s, a)) : Cursor.Passes ⟨cs, i⟩ a := by
  fun_induction readSource start cs i generalizing s a with
  | case1 => cases h
  | case2 cs i =>
    obtain ⟨_, rfl⟩ := Prod.mk.inj (Except.ok.inj h)
    exact Cursor.passes_past rfl
  | case3 => cases h
  | case4 cs i ih =>
    obtain ⟨_, h, _⟩ := Reading.map_eq_ok h
    exact Cursor.Passes.trans_reaches ⟨'\\', ['/'], rfl, rfl⟩ (ih h).reaches
  | case5 e cs i _ ih =>
    obtain ⟨_, h, _⟩ := Reading.map_eq_ok h
    exact Cursor.Passes.trans_reaches ⟨'\\', [e], rfl, rfl⟩ (ih h).reaches
  | case6 c cs i _ _ _ _ ih =>
    obtain ⟨_, h, _⟩ := Reading.map_eq_ok h
    exact (Cursor.passes_past (a := ⟨c :: cs, i⟩) rfl).trans_reaches (ih h).reaches

theorem readFlags_reaches {seen cs : List Char} {i : Nat} {s : List Char} {a : Cursor}
    (h : readFlags seen cs i = .ok (s, a)) : Cursor.Reaches ⟨cs, i⟩ a := by
  fun_induction readFlags seen cs i generalizing s a with
  | case1 | case4 =>
    obtain ⟨_, rfl⟩ := Prod.mk.inj (Except.ok.inj h)
    exact .refl _
  | case2 _ c cs i _ _ ih =>
    obtain ⟨_, h, _⟩ := Reading.map_eq_ok h
    exact (Cursor.passes_past (a := ⟨c :: cs, i⟩) rfl).reaches.trans (ih h)
  | case3 => cases h

theorem readRegex_passes {start : Nat} {cs : List Char} {i : Nat} {r : RegexLiteral} {a : Cursor}
    (h : readRegex start cs i = .ok (r, a)) : Cursor.Passes ⟨cs, i⟩ a := by
  unfold readRegex at h
  split at h
  · cases h
  · rename_i hs
    obtain ⟨_, h, _⟩ := Reading.map_eq_ok h
    exact (readSource_passes hs).trans_reaches (readFlags_reaches h)

end Motif.Pattern
