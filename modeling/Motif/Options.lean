import Motif.Json
import Motif.Token.Kind

/-!
# Options of a pattern (specification E1.3)

A compiled pattern carries two settings: whether white space between tokens is matched like any
other token, and how many live attempts a matcher keeps. A limit of zero can be written down but is
refused by `validate` (`validate_eq_ok_iff`).

`validate` and `skipsWhitespace` are the calls `validate` and `skips_whitespace`; `withFlags` takes
over compile flags.

Out of scope: setting options one after the other; options are given all at once.
-/

namespace Motif

/-- The settings of a compiled pattern. -/
structure Options where
  includeWhitespace : Bool := false
  maxThreads : UInt64 := 4096
  deriving DecidableEq

/-- The settings that a pattern can be compiled with by name. -/
structure Flags where
  withWhitespace : Bool := false
  deriving DecidableEq

namespace Options

/-- What can be wrong with options. -/
inductive Fault where
  | maxThreads (given : UInt64)
  deriving DecidableEq

/-- The message for a fault. -/
def Fault.message : Fault → String
  | maxThreads given => "max_threads must be at least 1 (got " ++ toString given.toNat ++ ")"

/-- The options with white space matched as the flags say. -/
def withFlags (o : Options) (flags : Flags) : Options :=
  { o with includeWhitespace := flags.withWhitespace }

/-- Refuses a limit of no threads. -/
def validate (o : Options) : Except Fault Unit :=
  if o.maxThreads = 0 then .error (.maxThreads o.maxThreads) else .ok ()

/-- Whether tokens of white space are passed over. -/
def skipsWhitespace (o : Options) : Bool :=
  !o.includeWhitespace

theorem validate_eq_ok_iff (o : Options) : o.validate = .ok () ↔ o.maxThreads ≠ 0 := by
  unfold validate
  split <;> simp_all

/-! ## As JSON -/

/-- Options as JSON. -/
def toJson (o : Options) : Json :=
  .object [("include_whitespace", .bool o.includeWhitespace),
    ("max_threads", .integer o.maxThreads.toNat)]

/-- Reads options: an object with both fields, whatever other fields it has, or an array of the
two. -/
def ofJson? : Json → Option Options
  | .object fields => do
    let includeWhitespace ← (Json.field? fields "include_whitespace").bind (·.asBool?)
    let maxThreads ← (Json.field? fields "max_threads").bind (·.asUInt64?)
    return { includeWhitespace, maxThreads }
  | .array [a, b] => do
    let includeWhitespace ← a.asBool?
    let maxThreads ← b.asUInt64?
    return { includeWhitespace, maxThreads }
  | _ => none

end Options

end Motif
