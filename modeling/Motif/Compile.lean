import Motif.Graph.Lower
import Motif.Graph.Text
import Motif.Options
import Motif.Pattern.Parse

/-!
# Compiled patterns (specification §4.1, §6, E1.3)

A pattern is compiled from its text or from a tree. Options that come with a text are checked before
the text is read; a tree is taken as it is, with whatever options.

`ofElements` and `compileWith` are the calls `compile_pattern_ast` and `compile_with_options`.

Out of scope: logging (E1.2), and that copies of a compiled pattern share its graph.
-/

namespace Motif

/-- Why a pattern could not be compiled. -/
inductive CompileFault where
  | pattern (f : Pattern.Fault)
  | options (f : Options.Fault)
  deriving DecidableEq

variable [RegexEngine]

/-- A pattern that is ready to be matched. -/
structure CompiledPattern where
  source : String
  graph : Graph
  options : Options

namespace CompiledPattern

/-- Compiles a tree; `source` is the text it goes by. -/
def ofElements (elements : List Pattern.Element) (source : String) (options : Options) :
    Except Pattern.Fault CompiledPattern :=
  (Graph.ofElements elements).map (⟨source, ·, options⟩)

/-- Compiles a text. -/
def compile (source : String) (flags : Flags) : Except Pattern.Fault CompiledPattern :=
  match Pattern.parse source with
  | .error f => .error f
  | .ok elements => ofElements elements source (Options.withFlags {} flags)

/-- Compiles a text with options. -/
def compileWith (source : String) (options : Options) : Except CompileFault CompiledPattern :=
  match options.validate with
  | .error f => .error (.options f)
  | .ok () =>
    match Pattern.parse source with
    | .error f => .error (.pattern f)
    | .ok elements => (ofElements elements source options).mapError .pattern

/-- The pattern in a uniform notation. -/
def text (p : CompiledPattern) : String :=
  p.graph.text

end CompiledPattern

end Motif
