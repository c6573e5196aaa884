import Motif.Pattern.Element
import Motif.Pattern.Fault
import Motif.Regex.Engine

/-!
# Atoms (specification §4.2, E3)

An atom is the compiled test of a token. A regular expression is compiled so that it has to match a
whole value: it is put between the anchors of the text, in a group of its own, with a line feed
before the end where a trailing comment has to be ended.

Two atoms are equal when they ask the same: the expression that was compiled is determined by its
source and flags (`ValueRegex.ext`), and where it was written does not count.

`ValueTest`, `PropertyTest` and `Atom` are a `ValueMatcher`, a `PropertyConstraint` and an
`AtomMatcher`, and `wholeRegex?` is `compile_regex`.

Out of scope: what the engine says of an expression that it refuses. A fault has the source of the
expression and its place.
-/

namespace Motif.Pattern

/-! ## Regular expressions for whole values -/

/-- The modes that flags switch on. -/
def regexOptions (flags : String) : RegexOptions where
  ignoreCase := 'i' ∈ flags.toList
  multiLine := 'm' ∈ flags.toList
  dotAll := 's' ∈ flags.toList
  freeForm := 'x' ∈ flags.toList

/-- An expression between the anchors of the text. -/
def anchored (source flags : String) : String :=
  "\\A(?:" ++ source ++ (if 'x' ∈ flags.toList then "\n" else "") ++ ")\\z"

variable [RegexEngine]

/-- What the engine builds of a source and flags as a test of whole values. -/
def wholeRegex? (source flags : String) : Option RegexEngine.Compiled :=
  RegexEngine.build? (regexOptions flags) (anchored source flags)

/-- A regular expression that the engine builds as a test of whole values. -/
structure ValueRegex where
  source : String
  flags : String
  regex : RegexEngine.Compiled
  compiled : wholeRegex? source flags = some regex

namespace ValueRegex

theorem ext {r s : ValueRegex} (hs : r.source = s.source) (hf : r.flags = s.flags) : r = s := by
  obtain ⟨source, flags, a, ha⟩ := r
  obtain ⟨source', flags', b, hb⟩ := s
  obtain rfl : source = source' := hs
  obtain rfl : flags = flags' := hf
  obtain rfl := Option.some.inj (ha.symm.trans hb)
  rfl

instance : DecidableEq ValueRegex := fun r s =>
  decidable_of_iff (r.source = s.source ∧ r.flags = s.flags)
    ⟨fun h => ext h.1 h.2, fun h => h ▸ ⟨rfl, rfl⟩⟩

/-- Compiles a source and flags. -/
def compile? (source flags : String) : Option ValueRegex :=
  match h : wholeRegex? source flags with
  | none => none
  | some regex => some ⟨source, flags, regex, h⟩

/-- Whether a value matches. -/
def accepts (r : ValueRegex) (value : String) : Bool :=
  RegexEngine.isMatch r.regex value

end ValueRegex

/-! ## Atoms -/

/-- What an atom asks of a property. -/
inductive ValueTest where
  | exact (s : String)
  | regex (r : ValueRegex)
  | present
  deriving DecidableEq

namespace ValueTest

/-- Whether a value passes; what is asked of a property to be present is not about its value. -/
def accepts : ValueTest → String → Bool
  | exact s, value => s == value
  | regex r, value => r.accepts value
  | present, _ => true

/-- Compiles what is expected of a property. -/
def compile : Expected → Except Fault ValueTest
  | .text s => .ok (exact s)
  | .regex r =>
    match ValueRegex.compile? r.source r.flags with
    | some v => .ok (regex v)
    | none => .error (.invalidRegex r.source r.index)
  | .present => .ok present

end ValueTest

/-- A compiled condition on one property. -/
structure PropertyTest where
  name : String
  value : ValueTest
  deriving DecidableEq

namespace PropertyTest

/-- Whether a token meets the condition. The text of a token is always present, another property
if its value counts as set. -/
def accepts (p : PropertyTest) (t : Token) : Bool :=
  match p.value with
  | .present => p.name == Token.textName || (t.get? p.name).any (·.isSet)
  | value => (t.propertyText? p.name).any value.accepts

/-- Compiles a condition. -/
def compile (c : Constraint) : Except Fault PropertyTest :=
  (ValueTest.compile c.value).map (⟨c.name, ·⟩)

end PropertyTest

/-- The compiled test of a token; `none` stands for any kind. -/
structure Atom where
  kind : Option Token.Kind
  properties : List PropertyTest
  deriving DecidableEq

namespace Atom

/-- Whether a token is of the kind and meets all conditions. -/
def accepts (a : Atom) (t : Token) : Bool :=
  a.kind.all (· == t.kind) && a.properties.all (·.accepts t)

/-- Compiles a test; the first condition that cannot be compiled is reported. -/
def compile (t : TokenTest) : Except Fault Atom :=
  (t.constraints.mapM PropertyTest.compile).map (⟨t.kind, ·⟩)

end Atom

/-! ## Atoms as text -/

/-- How a character is written between quotes. -/
def quotedChar : Char → List Char
  | '\n' => ['\\', 'n']
  | '\r' => ['\\', 'r']
  | '\t' => ['\\', 't']
  | '\\' => ['\\', '\\']
  | '\'' => ['\\', '\'']
  | c => [c]

/-- How a character is written between slashes. -/
def slashedChar : Char → List Char
  | '/' => ['\\', '/']
  | c => [c]

namespace ValueTest

/-- What follows the name of a property. -/
def text : ValueTest → String
  | exact s => "='" ++ .ofList (s.toList.flatMap quotedChar) ++ "'"
  | regex r => "=/" ++ .ofList (r.source.toList.flatMap slashedChar) ++ "/" ++ r.flags
  | present => ""

end ValueTest

/-- A condition as it is written after a test. -/
def PropertyTest.text (p : PropertyTest) : String :=
  "," ++ p.name ++ p.value.text

/-- The keyword by which a kind, or any, is called. -/
def kindText (kind : Option Token.Kind) : String :=
  kind.elim "any" (·.keyword)

/-- An atom in the notation of patterns. -/
def Atom.text (a : Atom) : String :=
  kindText a.kind ++ String.join (a.properties.map (·.text))

end Motif.Pattern
