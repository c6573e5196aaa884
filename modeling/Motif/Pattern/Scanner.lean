import Motif.Pattern.Literal
import Motif.Pattern.Offsets

/-!
# Scanning by bytes (specification E1.5)

A scanner stands at a character of a text, by its number, and has a table of all characters with
their byte indices. A literal is scanned in rounds: the bytes that are left are searched for the
next mark or backslash, the part before it is taken over as it stands, and the scanner moves to that
byte by way of the table. A mark ends the literal; after an escape comes the next round.

There is no result (`none`) where a scanner would take a part of the text that does not lie between
the boundaries of characters, or expects a character that is not there.

`seek`, `takeWhile?`, `readText?` and `readRegex?` are `seek_byte`, `take_until`, `read_string` and
`read_regex`; the two literals share one loop with a `Delimiter`.

Out of scope: how bytes are searched. The search is a parameter, of which it is asked that it finds
the first of two bytes (`FindsEither`).

* `left_lt_of_round`: a round that is followed by another moves the scanner on, so scanning ends.
-/

namespace Motif.Pattern

/-- A place in a text, with the table of its characters and their byte indices. -/
structure Scanner (text : String) where
  chars : Array (Nat × Char)
  chars_eq : chars.toList = charIndices 0 text.toList
  place : Nat

/-- A result of scanning: what was scanned and where scanning goes on. -/
abbrev Scan (text : String) (α : Type) := Except Fault (α × Scanner text)

/-- Rewrites what was scanned. -/
def Scan.map {text : String} {α β : Type} (f : α → β) (r : Scan text α) : Scan text β :=
  Except.map (Prod.map f id) r

namespace Scanner

variable {text : String}

/-- The start of a text. -/
def atStart (text : String) : Scanner text where
  chars := (charIndices 0 text.toList).toArray
  chars_eq := rfl
  place := 0

/-- The next character. -/
def peek (s : Scanner text) : Option Char :=
  s.chars[s.place]?.map (·.2)

/-- The byte index of the next character, or of the end of the text. -/
def byteIndex (s : Scanner text) : Nat :=
  (s.chars[s.place]?.map (·.1)).getD text.utf8ByteSize

/-- The scanner moved over `n` characters. -/
def moved (n : Nat) (s : Scanner text) : Scanner text :=
  { s with place := s.place + n }

/-- The next character and the scanner after it. -/
def next? (s : Scanner text) : Option (Char × Scanner text) :=
  s.peek.map (·, s.moved 1)

/-- The scanner after the next character, which has to be `c`. -/
def expect? (c : Char) (s : Scanner text) : Option (Scanner text) :=
  if s.peek = some c then some (s.moved 1) else none

/-- The scanner at the first character whose byte index is not below `i`. -/
def seek (i : Nat) (s : Scanner text) : Scanner text :=
  { s with place := partitionPoint (·.1 < i) s.chars }

/-- How many characters are left. Scanning ends because they become fewer. -/
def left (s : Scanner text) : Nat :=
  s.chars.size - s.place

/-! ## The table -/

variable {s t : Scanner text} {c : Char}

theorem size_chars (s : Scanner text) : s.chars.size = text.toList.length := by
  rw [← Array.length_toList, s.chars_eq, length_charIndices]

theorem getElem?_chars (s : Scanner text) (k : Nat) :
    s.chars[k]? = text.toList[k]?.map fun c => (byteLength (text.toList.take k), c) := by
  rw [← Array.getElem?_toList, s.chars_eq, getElem?_charIndices]
  simp only [Nat.zero_add]

theorem byteIndex_eq (s : Scanner text) : s.byteIndex = byteLength (text.toList.take s.place) := by
  rw [byteIndex, getElem?_chars]
  cases hc : text.toList[s.place]? with
  | some c => rfl
  | none =>
    rw [List.getElem?_eq_none_iff] at hc
    rw [List.take_of_length_le hc, ← utf8ByteSize_eq_byteLength]
    rfl

theorem peek_eq (s : Scanner text) : s.peek = text.toList[s.place]? := by
  rw [peek, getElem?_chars, Option.map_map]
  exact Option.map_id'

theorem next?_eq_some (h : s.next? = some (c, t)) : s.peek = some c ∧ t = s.moved 1 := by
  obtain ⟨d, hd, h⟩ := Option.map_eq_some_iff.mp h
  obtain ⟨rfl, rfl⟩ := Prod.mk.inj h
  exact ⟨hd, rfl⟩

theorem left_moved_lt (h : s.peek = some c) : (s.moved 1).left < s.left := by
  obtain ⟨hlt, -⟩ := List.getElem?_eq_some_iff.mp (s.peek_eq.symm.trans h)
  rw [← s.size_chars] at hlt
  show s.chars.size - (s.place + 1) < s.chars.size - s.place
  omega

/-- Moving to a byte that does not come before the scanner does not move it back. -/
theorem left_seek_le (s : Scanner text) (n : Nat) : (s.seek (s.byteIndex + n)).left ≤ s.left := by
  -- A scanner beyond the end has no more left than one at the end.
  have hle : min s.place s.chars.size ≤ (s.seek (s.byteIndex + n)).place := by
    refine le_partitionPoint (Nat.min_le_right _ _) fun k hk => ?_
    obtain ⟨hplace, hsize⟩ := Nat.lt_min.mp hk
    rw [size_chars] at hsize
    have hlt := byteLength_take_lt text.toList hplace hsize
    rw [← byteIndex_eq] at hlt
    rw [getElem?_chars, List.getElem?_eq_getElem hsize]
    simpa using Nat.lt_add_right n hlt
  show s.chars.size - _ ≤ s.chars.size - s.place
  omega

/-! ## Words and flags -/

/-- The scanner at the next character that does not satisfy `p`. -/
def dropWhile (p : Char → Bool) (s : Scanner text) : Scanner text :=
  match _h : s.peek with
  | none => s
  | some c => if p c then (s.moved 1).dropWhile p else s
termination_by s.left
decreasing_by exact left_moved_lt _h

/-- The text up to the next character that does not satisfy `p`, and the scanner there. -/
def takeWhile? (p : Char → Bool) (s : Scanner text) : Option (String × Scanner text) :=
  let t := s.dropWhile p
  (part? text s.byteIndex t.byteIndex).map (·, t)

/-- Scans flags up to the first character that is no ASCII letter; `flags` are those before. -/
def readFlags (flags : String) (s : Scanner text) : Scan text String :=
  match _h : s.peek with
  | none => .ok (flags, s)
  | some c =>
    if c.isAlpha then
      if c ∈ regexFlags ∧ c ∉ flags.toList then (s.moved 1).readFlags (flags.push c)
      else .error (.unknownRegexFlag c s.byteIndex)
    else .ok (flags, s)
termination_by s.left
decreasing_by exact left_moved_lt _h

end Scanner

/-! ## Literals -/

/-- What stands at either end of a literal, what an escape in it stands for, given its index, and
the fault of a literal without end. -/
structure Delimiter where
  mark : Char
  escape : Char → (index : Nat) → Except Fault (List Char)
  unclosed : (start : Nat) → Fault
  ascii : mark.toNat < 128 := by decide

/-- What a round of scanning comes to: another round, or the end. -/
inductive Round (text : String) where
  | again (value : String) (s : Scanner text)
  | over (r : Scan text String)

namespace Delimiter

/-- Texts stand between quotes. -/
def quote : Delimiter where
  mark := '\''
  escape e i :=
    match unescape? e with
    | some c => .ok [c]
    | none => .error (.unknownEscape e i)
  unclosed := .unclosedText

/-- Regular expressions stand between slashes. -/
def slash : Delimiter where
  mark := '/'
  escape e _ := .ok (if e = '/' then ['/'] else ['\\', e])
  unclosed := .unclosedRegex

variable {text : String} (find : UInt8 → UInt8 → List UInt8 → Option Nat)

/-- Goes on at the byte that was found, which has the given index. -/
def turn (d : Delimiter) (value : String) (index : Nat) (s : Scanner text) : Round text :=
  match s.next? with
  | none => .over (.error (.loneEscape index))
  | some (c, s) =>
    if c = d.mark then .over (.ok (value, s))
    else
      -- What is not the mark is taken for a backslash.
      match s.next? with
      | none => .over (.error (.loneEscape index))
      | some (e, s) =>
        match d.escape e index with
        | .error f => .over (.error f)
        | .ok cs => .again (value ++ .ofList cs) s

/-- One round of scanning a literal that began at `start`; `value` is what has been scanned. -/
def round (d : Delimiter) (start : Nat) (value : String) (s : Scanner text) :
    Option (Round text) :=
  match bytesFrom? text s.byteIndex with
  | none => none
  | some bytes =>
    match find d.mark.toUInt8 '\\'.toUInt8 bytes with
    | none => some (.over (.error (d.unclosed start)))
    | some offset =>
      (part? text s.byteIndex (s.byteIndex + offset)).map fun part =>
        d.turn (value ++ part) (s.byteIndex + offset) (s.seek (s.byteIndex + offset))

section

variable {d : Delimiter} {value value' : String} {s s' : Scanner text}

theorem left_lt_of_turn {index : Nat} (h : d.turn value index s = .again value' s') :
    s'.left < s.left := by
  unfold turn at h
  split at h
  · cases h
  · rename_i hnext
    obtain ⟨hpeek, rfl⟩ := Scanner.next?_eq_some hnext
    have hlt := Scanner.left_moved_lt hpeek
    split at h
    · cases h
    · split at h
      · cases h
      · rename_i hnext'
        obtain ⟨hpeek', rfl⟩ := Scanner.next?_eq_some hnext'
        split at h
        · cases h
        · cases h
          exact Nat.lt_trans (Scanner.left_moved_lt hpeek') hlt

/-- A round that is followed by another moves the scanner on. -/
theorem left_lt_of_round {find : UInt8 → UInt8 → List UInt8 → Option Nat} {start : Nat}
    (h : d.round find start value s = some (.again value' s')) : s'.left < s.left := by
  unfold round at h
  split at h
  · cases h
  · split at h
    · cases h
    · rename_i offset _
      obtain ⟨part, -, hturn⟩ := Option.map_eq_some_iff.mp h
      exact Nat.lt_of_lt_of_le (left_lt_of_turn hturn) (s.left_seek_le offset)

end

/-- Scans the rest of a literal, round by round. -/
def loop (d : Delimiter) (start : Nat) (value : String) (s : Scanner text) :
    Option (Scan text String) :=
  match _h : d.round find start value s with
  | none => none
  | some (.over r) => some r
  | some (.again value' s') => d.loop start value' s'
termination_by s.left
decreasing_by exact left_lt_of_round _h

/-- Scans a literal from its first mark to its last. -/
def read? (d : Delimiter) (s : Scanner text) : Option (Scan text String) :=
  (s.expect? d.mark).bind (d.loop find s.byteIndex "")

end Delimiter

namespace Scanner

variable {text : String} (find : UInt8 → UInt8 → List UInt8 → Option Nat)

/-- Scans a text with its quotes. -/
def readText? (s : Scanner text) : Option (Scan text String) :=
  Delimiter.quote.read? find s

/-- Scans a regular expression with its slashes and its flags. -/
def readRegex? (s : Scanner text) : Option (Scan text RegexLiteral) :=
  (Delimiter.slash.read? find s).map fun
    | .error f => .error f
    | .ok (source, t) => (t.readFlags "").map fun flags => ⟨source, flags, s.byteIndex⟩

end Scanner

end Motif.Pattern
