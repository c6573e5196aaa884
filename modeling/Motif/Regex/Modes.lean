import Motif.Regex.Engine
import Motif.Regex.Escape
import Motif.Text.Fold

/-!
# Modes of regular expressions

What characters, escapes and the marks `.`, `^` and `$` stand for under the modes that are set.

Without Unicode all sets are taken within ASCII. An expression matches characters and never single
bytes of one, so a set that would reach beyond ASCII is then refused, as is a byte beyond ASCII.

* `isAscii_of_admitted`: without Unicode only sets within ASCII are admitted.
-/

namespace Motif.Regex

open Text (CodePointSet)

/-- The modes that change how an expression is read. Some can only be set within it. -/
structure Modes extends RegexOptions where
  crlf : Bool := false
  swapGreed : Bool := false
  unicode : Bool := true
  deriving DecidableEq

/-- The set that a name stands for. -/
def SetName.members (unicode : Bool) : SetName → CodePointSet
  | digit => if unicode then Text.decimalNumbers else Text.asciiDecimal
  | space => if unicode then Text.blank else Text.asciiBlank
  | word => if unicode then Text.word else Text.asciiWord

namespace Modes

/-- The modes with the one of a letter switched. -/
def set? (m : Modes) (letter : Char) (on : Bool) : Option Modes :=
  match letter with
  | 'i' => some { m with ignoreCase := on }
  | 'm' => some { m with multiLine := on }
  | 's' => some { m with dotAll := on }
  | 'x' => some { m with freeForm := on }
  | 'R' => some { m with crlf := on }
  | 'U' => some { m with swapGreed := on }
  | 'u' => some { m with unicode := on }
  | _ => none

/-! ## Sets of characters -/

/-- A set that may be matched. -/
def admitted (m : Modes) (s : CodePointSet) : Option CodePointSet :=
  if m.unicode || s.isAscii then some s else none

/-- A set up to case, if case is ignored. -/
def folded (m : Modes) (s : CodePointSet) : CodePointSet :=
  if !m.ignoreCase then s else if m.unicode then s.folded else s.foldedAscii

/-- A set, or its complement if `negated`. -/
def signed (negated : Bool) (s : CodePointSet) : CodePointSet :=
  if negated then s.compl else s

/-- A set up to case, or its complement if `negated`. -/
def adjusted (m : Modes) (negated : Bool) (s : CodePointSet) : Option CodePointSet :=
  m.admitted (signed negated (m.folded s))

/-- The set that a name or its capital stands for. Case makes no difference to it. -/
def named (m : Modes) (name : SetName) (negated : Bool) : Option CodePointSet :=
  m.admitted (signed negated (name.members m.unicode))

/-- The set of the characters that have a property. There are no properties without Unicode. -/
def property (m : Modes) (s : CodePointSet) (negated : Bool) : Option CodePointSet :=
  if m.unicode then m.adjusted negated s else none

/-- The characters that do not end a line. -/
def withinLine (m : Modes) : CodePointSet :=
  if m.crlf then ((CodePointSet.single '\n').union (.single '\r')).compl
  else (CodePointSet.single '\n').compl

/-- The set that a dot stands for. -/
def dot (m : Modes) : Option CodePointSet :=
  m.admitted (if m.dotAll then .all else m.withinLine)

/-! ## Looks -/

/-- What a caret stands for. -/
def caret (m : Modes) : Look :=
  if m.multiLine then .lineStart m.crlf else .textStart

/-- What a dollar sign stands for. -/
def dollar (m : Modes) : Look :=
  if m.multiLine then .lineEnd m.crlf else .textEnd

/-! ## Escapes -/

/-- The character that an escape stands for, if it does for one. -/
def character? (m : Modes) : Escape → Option Char
  | .char c => some c
  | .byte c => if m.unicode || c.toNat < 0x80 then some c else none
  | _ => none

/-- The expression for one character or escape. Outside brackets a character beyond ASCII may be
matched without Unicode too. -/
def expression? (m : Modes) (e : Escape) : Option Regex :=
  match e with
  | .named name negated => (m.named name negated).map (.char · 0)
  | .property s negated => (m.property s negated).map (.char · 0)
  | .look l => some (.look l)
  | .wordTest t => some (.look (.word t !m.unicode))
  | e => (m.character? e).map fun c => .char (m.folded (.single c)) 0

theorem isAscii_of_admitted {m : Modes} {s t : CodePointSet} (h : m.admitted s = some t)
    (hm : m.unicode = false) : t.isAscii = true := by
  unfold admitted at h
  split at h
  · rename_i hs
    obtain rfl := Option.some.inj h
    simpa [hm] using hs
  · cases h

end Modes

end Motif.Regex
