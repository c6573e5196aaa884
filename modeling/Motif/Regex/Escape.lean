import Motif.Regex.Syntax
import Motif.Text.Blank
import Motif.Text.PropertyTables

/-!
# Characters and escapes of regular expressions

The smallest parts of an expression: blanks and comments that the free form passes over, numbers,
and escapes. Each function takes the characters left and returns those that are left after it. A
character is dropped together with the free space after it (`dropSpaced`) wherever free space may
stand there.
-/

namespace Motif.Regex

/-! ## Free space -/

/-- Passes over blanks and comments; a comment ends with its line. -/
def skipFree (inComment : Bool) : List Char → List Char
  | [] => []
  | c :: cs =>
    if inComment then skipFree (c != '\n') cs
    else if Text.isBlank c then skipFree false cs
    else if c = '#' then skipFree true cs
    else c :: cs

/-- Passes over blanks and comments in free form, over nothing else. -/
def skipSpace (free : Bool) (cs : List Char) : List Char :=
  if free then skipFree false cs else cs

theorem length_skipFree_le (b : Bool) (cs : List Char) : (skipFree b cs).length ≤ cs.length := by
  fun_induction skipFree b cs <;> simp_all <;> omega

theorem length_skipSpace_le (free : Bool) (cs : List Char) :
    (skipSpace free cs).length ≤ cs.length := by
  unfold skipSpace
  split
  · exact length_skipFree_le ..
  · exact Nat.le_refl _

/-! ## Numbers -/

/-- The value of a digit to the base 16. -/
def hexValue? (c : Char) : Option Nat :=
  if c.isDigit then some (c.toNat - '0'.toNat)
  else if 'a' ≤ c ∧ c ≤ 'f' then some (c.toNat - 'a'.toNat + 10)
  else if 'A' ≤ c ∧ c ≤ 'F' then some (c.toNat - 'A'.toNat + 10)
  else none

/-- Reads decimal digits onto the number read so far. Free space may stand between them. -/
def readDigits (free : Bool) (n : Option Nat) (cs : List Char) : Option Nat × List Char :=
  match cs with
  | [] => (n, [])
  | c :: rest =>
    if c.isDigit then
      readDigits free (some (10 * n.getD 0 + (c.toNat - '0'.toNat))) (skipSpace free rest)
    else (n, c :: rest)
termination_by cs.length
decreasing_by
  have := length_skipSpace_le free rest
  simp only [List.length_cons]
  omega

/-- Passes over blanks, in free form also over comments that follow a blank. -/
def skipBlanks (free : Bool) (cs : List Char) : List Char :=
  match cs with
  | [] => []
  | c :: rest => if Text.isBlank c then skipBlanks free (skipSpace free rest) else c :: rest
termination_by cs.length
decreasing_by
  have := length_skipSpace_le free rest
  simp only [List.length_cons]
  omega

/-- Reads a bound of a repetition, a number below 2 ^ 32. Blanks may stand around it. -/
def readBound (free : Bool) (cs : List Char) : Option (Nat × List Char) :=
  let (n, rest) := readDigits free none (cs.dropWhile Text.isBlank)
  match n with
  | some n => if n < UInt32.size then some (n, skipBlanks free rest) else none
  | none => none

/-- The character with a code point, if there is one. -/
def charOfNat? (n : Nat) : Option Char :=
  if n.isValidChar then some (.ofNat n) else none

/-- Reads hexadecimal digits up to a closing brace, onto the number read so far. -/
def readBraced (free : Bool) (n : Option Nat) (cs : List Char) : Option (Nat × List Char) :=
  match cs with
  | [] => none
  | '\x7d' :: rest => n.map (·, skipSpace free rest)
  | c :: rest =>
    match hexValue? c with
    | some d => readBraced free (some (16 * n.getD 0 + d)) (skipSpace free rest)
    | none => none
termination_by cs.length
decreasing_by
  have := length_skipSpace_le free rest
  simp only [List.length_cons]
  omega

/-- Reads exactly `k` more hexadecimal digits onto the number `n`. -/
def readFixed (free : Bool) (n : Nat) : (k : Nat) → List Char → Option (Nat × List Char)
  | 0, cs => some (n, cs)
  | _ + 1, [] => none
  | k + 1, c :: cs =>
    match hexValue? c with
    | some d => readFixed free (16 * n + d) k (skipSpace free cs)
    | none => none

/-- Reads a code point, in braces or with `k` digits. -/
def readCodePoint (free : Bool) (k : Nat) (cs : List Char) : Option (Char × List Char) :=
  (match cs with
    | '\x7b' :: rest => readBraced free none (skipSpace free rest)
    | cs => readFixed free 0 k cs).bind fun (n, rest) => (charOfNat? n).map (·, rest)

/-! ## Escapes -/

/-- The sets of characters that have a letter of their own. -/
inductive SetName where
  | digit
  | space
  | word

/-- What an escape, or a single character, stands for. A character that is given by two hexadecimal
digits is told apart as a byte. -/
inductive Escape where
  | char (c : Char)
  | byte (c : Char)
  | named (name : SetName) (negated : Bool)
  | property (s : Text.CodePointSet) (negated : Bool)
  | look (l : Look)
  | wordTest (t : WordTest)

/-- A character that stands for itself after a backslash: any of ASCII but letters, digits and
angle brackets. -/
def isEscapable (c : Char) : Bool :=
  c.toNat < 128 && !c.isAlphanum && c != '<' && c != '>'

/-- The escapes of one letter. -/
def letterEscape? : Char → Option Escape
  | 'a' => some (.char '\x07')
  | 'f' => some (.char '\x0c')
  | 't' => some (.char '\t')
  | 'n' => some (.char '\n')
  | 'r' => some (.char '\r')
  | 'v' => some (.char '\x0b')
  | 'd' => some (.named .digit false)
  | 's' => some (.named .space false)
  | 'w' => some (.named .word false)
  | 'D' => some (.named .digit true)
  | 'S' => some (.named .space true)
  | 'W' => some (.named .word true)
  | 'A' => some (.look .textStart)
  | 'z' => some (.look .textEnd)
  | 'B' => some (.wordTest .noBoundary)
  | '<' => some (.wordTest .start)
  | '>' => some (.wordTest .finish)
  | _ => none

/-- The word boundaries that are called by name. -/
def boundaryNamed? (name : List Char) : Option WordTest :=
  match String.ofList name with
  | "start" => some .start
  | "end" => some .finish
  | "start-half" => some .startHalf
  | "end-half" => some .finishHalf
  | _ => none

/-- A character of the name of a word boundary. -/
def isBoundaryName (c : Char) : Bool :=
  c.isAlpha || c == '-'

/-- Reads the name of a word boundary up to its closing brace. -/
def readBoundaryName (free : Bool) (name : List Char) (cs : List Char) :
    Option (WordTest × List Char) :=
  match cs with
  | [] => none
  | c :: rest =>
    if isBoundaryName c then readBoundaryName free (name ++ [c]) (skipSpace free rest)
    else if c = '\x7d' then (boundaryNamed? name).map (·, rest)
    else none
termination_by cs.length
decreasing_by
  have := length_skipSpace_le free rest
  simp only [List.length_cons]
  omega

/-- Reads what follows the escape of a word boundary: a name in braces, unless the braces can only
be those of a repetition. -/
def readBoundary (free : Bool) (cs : List Char) : Option (WordTest × List Char) :=
  match cs with
  | '\x7b' :: rest =>
    match skipSpace free rest with
    | [] => none
    | c :: rest' =>
      if isBoundaryName c then readBoundaryName free [] (c :: rest')
      else some (.boundary, cs)
  | _ => some (.boundary, cs)

/-- Reads the name of a property up to its closing brace. -/
def readPropertyName (free : Bool) (name : List Char) (cs : List Char) :
    Option (List Char × List Char) :=
  match cs with
  | [] => none
  | '\x7d' :: rest => some (name.reverse, rest)
  | c :: rest => readPropertyName free (c :: name) (skipSpace free rest)
termination_by cs.length
decreasing_by
  have := length_skipSpace_le free rest
  simp only [List.length_cons]
  omega

/-- The parts of a text before and after the first place where `mark` stands. -/
def splitAt? (mark : List Char) : List Char → Option (List Char × List Char)
  | [] => none
  | c :: cs =>
    if mark.isPrefixOf (c :: cs) then some ([], (c :: cs).drop mark.length)
    else (splitAt? mark cs).map fun (before, after) => (c :: before, after)

section

variable [Text.PropertyTables]

/-- The set that a name in braces stands for. A property and its value are parted by a mark, and
all three marks mean the same. -/
def propertySet? (name : List Char) : Option Text.CodePointSet :=
  match ((splitAt? ['!', '='] name).or (splitAt? [':'] name)).or (splitAt? ['='] name) with
  | some (property, value) => Text.PropertyTables.valued? property value
  | none => Text.PropertyTables.named? name

/-- Reads a property after its letter: a name in braces or of one letter. -/
def readProperty (free : Bool) (cs : List Char) : Option (Text.CodePointSet × List Char) :=
  match skipSpace free cs with
  | [] | '\\' :: _ => none
  | '\x7b' :: rest =>
    (readPropertyName free [] (skipSpace free rest)).bind fun (name, rest) =>
      (propertySet? name).map (·, rest)
  | c :: rest => (Text.PropertyTables.named? [c]).map (·, rest)

/-- Reads an escape after its backslash. -/
def readEscape (free : Bool) : List Char → Option (Escape × List Char)
  | [] => none
  | 'x' :: cs =>
    let cs := skipSpace free cs
    let braced := cs.head? == some '\x7b'
    (readCodePoint free 2 cs).map fun (c, r) => (if braced then .char c else .byte c, r)
  | 'u' :: cs => (readCodePoint free 4 (skipSpace free cs)).map fun (c, r) => (.char c, r)
  | 'U' :: cs => (readCodePoint free 8 (skipSpace free cs)).map fun (c, r) => (.char c, r)
  | 'p' :: cs => (readProperty free cs).map fun (s, r) => (.property s false, r)
  | 'P' :: cs => (readProperty free cs).map fun (s, r) => (.property s true, r)
  | 'b' :: cs => (readBoundary free cs).map fun (t, r) => (.wordTest t, r)
  | c :: cs => if isEscapable c then some (.char c, cs) else (letterEscape? c).map (·, cs)

end

/-! ## What is left is no longer -/

theorem length_readDigits_le (free : Bool) (n : Option Nat) (cs : List Char) :
    (readDigits free n cs).2.length ≤ cs.length := by
  fun_induction readDigits free n cs with
  | case1 => simp
  | case2 n c rest _ ih =>
    have := length_skipSpace_le free rest
    simp only [List.length_cons]
    omega
  | case3 => simp

theorem length_skipBlanks_le (free : Bool) (cs : List Char) :
    (skipBlanks free cs).length ≤ cs.length := by
  fun_induction skipBlanks free cs with
  | case1 => simp
  | case2 c rest _ ih =>
    have := length_skipSpace_le free rest
    simp only [List.length_cons]
    omega
  | case3 => simp

theorem length_dropWhile_le (p : Char → Bool) (cs : List Char) :
    (cs.dropWhile p).length ≤ cs.length :=
  (List.dropWhile_sublist p).length_le

theorem readBound_length {free : Bool} {cs rest : List Char} {n : Nat}
    (h : readBound free cs = some (n, rest)) : rest.length ≤ cs.length := by
  have h1 := length_readDigits_le free none (cs.dropWhile Text.isBlank)
  have h2 := length_dropWhile_le Text.isBlank cs
  have h3 := length_skipBlanks_le free (readDigits free none (cs.dropWhile Text.isBlank)).2
  unfold readBound at h
  dsimp only at h
  split at h
  · split at h
    · obtain ⟨_, rfl⟩ := Prod.mk.inj (Option.some.inj h)
      omega
    · cases h
  · cases h

theorem readBraced_length {free : Bool} {n : Option Nat} {cs rest : List Char} {k : Nat}
    (h : readBraced free n cs = some (k, rest)) : rest.length ≤ cs.length := by
  fun_induction readBraced free n cs with
  | case1 => cases h
  | case2 n r =>
    obtain ⟨_, _, h⟩ := Option.map_eq_some_iff.mp h
    obtain ⟨_, rfl⟩ := Prod.mk.inj h
    have := length_skipSpace_le free r
    simp only [List.length_cons]
    omega
  | case3 n c r _ _ _ ih =>
    have := length_skipSpace_le free r
    have := ih h
    simp only [List.length_cons]
    omega
  | case4 => cases h

theorem readFixed_length {free : Bool} {n k m : Nat} {cs rest : List Char}
    (h : readFixed free n k cs = some (m, rest)) : rest.length ≤ cs.length := by
  fun_induction readFixed free n k cs with
  | case1 =>
    obtain ⟨_, rfl⟩ := Prod.mk.inj (Option.some.inj h)
    exact Nat.le_refl _
  | case2 => cases h
  | case3 n k c cs _ _ ih =>
    have := length_skipSpace_le free cs
    have := ih h
    simp only [List.length_cons]
    omega
  | case4 => cases h

theorem readCodePoint_length {free : Bool} {k : Nat} {cs rest : List Char} {c : Char}
    (h : readCodePoint free k cs = some (c, rest)) : rest.length ≤ cs.length := by
  unfold readCodePoint at h
  obtain ⟨⟨n, r⟩, hn, h⟩ := Option.bind_eq_some_iff.mp h
  obtain ⟨d, _, h⟩ := Option.map_eq_some_iff.mp h
  obtain ⟨_, rfl⟩ := Prod.mk.inj h
  split at hn
  · rename_i s
    have := readBraced_length hn
    have := length_skipSpace_le free s
    simp only [List.length_cons]
    omega
  · exact readFixed_length hn

theorem readBoundaryName_length {free : Bool} {name cs rest : List Char} {t : WordTest}
    (h : readBoundaryName free name cs = some (t, rest)) : rest.length ≤ cs.length := by
  fun_induction readBoundaryName free name cs with
  | case1 => cases h
  | case2 name c r _ ih =>
    have := length_skipSpace_le free r
    have := ih h
    simp only [List.length_cons]
    omega
  | case3 =>
    obtain ⟨_, _, h⟩ := Option.map_eq_some_iff.mp h
    obtain ⟨_, rfl⟩ := Prod.mk.inj h
    simp
  | case4 => cases h

theorem readBoundary_length {free : Bool} {cs rest : List Char} {t : WordTest}
    (h : readBoundary free cs = some (t, rest)) : rest.length ≤ cs.length := by
  unfold readBoundary at h
  split at h
  · rename_i r
    split at h
    · cases h
    · rename_i c r' hr
      split at h
      · have := readBoundaryName_length h
        have := length_skipSpace_le free r
        rw [hr] at this
        simp only [List.length_cons] at *
        omega
      · obtain ⟨_, rfl⟩ := Prod.mk.inj (Option.some.inj h)
        exact Nat.le_refl _
  · obtain ⟨_, rfl⟩ := Prod.mk.inj (Option.some.inj h)
    exact Nat.le_refl _

theorem readPropertyName_length {free : Bool} {name name' cs rest : List Char}
    (h : readPropertyName free name cs = some (name', rest)) : rest.length ≤ cs.length := by
  fun_induction readPropertyName free name cs with
  | case1 => cases h
  | case2 =>
    obtain ⟨_, rfl⟩ := Prod.mk.inj (Option.some.inj h)
    simp
  | case3 _ _ r _ ih =>
    have := length_skipSpace_le free r
    have := ih h
    simp only [List.length_cons]
    omega

section

variable [Text.PropertyTables]

theorem readProperty_length {free : Bool} {cs rest : List Char} {s : Text.CodePointSet}
    (h : readProperty free cs = some (s, rest)) : rest.length ≤ cs.length := by
  have h0 := length_skipSpace_le free cs
  unfold readProperty at h
  split at h
  case h_1 | h_2 => cases h
  case h_3 r hr =>
    obtain ⟨⟨_, _⟩, hn, h⟩ := Option.bind_eq_some_iff.mp h
    obtain ⟨_, _, h⟩ := Option.map_eq_some_iff.mp h
    obtain ⟨_, rfl⟩ := Prod.mk.inj h
    have := readPropertyName_length hn
    have := length_skipSpace_le free r
    rw [hr] at h0
    simp only [List.length_cons] at h0
    omega
  case h_4 hr =>
    obtain ⟨_, _, h⟩ := Option.map_eq_some_iff.mp h
    obtain ⟨_, rfl⟩ := Prod.mk.inj h
    rw [hr] at h0
    simp only [List.length_cons] at h0
    omega

theorem readEscape_length {free : Bool} {cs rest : List Char} {e : Escape}
    (h : readEscape free cs = some (e, rest)) : rest.length < cs.length := by
  unfold readEscape at h
  split at h
  case h_1 => cases h
  case h_2 r | h_3 r | h_4 r =>
    obtain ⟨_, hc, h⟩ := Option.map_eq_some_iff.mp h
    obtain ⟨_, rfl⟩ := Prod.mk.inj h
    have := readCodePoint_length hc
    have := length_skipSpace_le free r
    simp only [List.length_cons]
    omega
  case h_5 r | h_6 r =>
    obtain ⟨_, hc, h⟩ := Option.map_eq_some_iff.mp h
    obtain ⟨_, rfl⟩ := Prod.mk.inj h
    exact Nat.lt_succ_of_le (readProperty_length hc)
  case h_7 r =>
    obtain ⟨_, hc, h⟩ := Option.map_eq_some_iff.mp h
    obtain ⟨_, rfl⟩ := Prod.mk.inj h
    exact Nat.lt_succ_of_le (readBoundary_length hc)
  case h_8 =>
    split at h
    · obtain ⟨_, rfl⟩ := Prod.mk.inj (Option.some.inj h)
      simp
    · obtain ⟨_, _, h⟩ := Option.map_eq_some_iff.mp h
      obtain ⟨_, rfl⟩ := Prod.mk.inj h
      simp

end

end Motif.Regex
