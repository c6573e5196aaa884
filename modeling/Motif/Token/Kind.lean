/-!
# Token kinds (specification §3, E2)

What class of text a token is. A kind has a keyword, by which patterns and displays call it, and
patterns may also call two of the kinds by a short form.

`ofKeyword?` is the call `from_keyword`, `isWhitespace` is `is_whitespace`; a kind is displayed by
its `keyword`.

* `ofKeyword?_keyword`: the keyword of a kind is read back as that kind.
-/

namespace Motif.Token

/-- The class of text that a token belongs to. -/
inductive Kind where
  | unknown
  | word
  | symbol
  | whitespace
  | special
  deriving DecidableEq, Repr, Inhabited

namespace Kind

/-- The keyword that stands for a kind. -/
def keyword : Kind → String
  | unknown => "unknown"
  | word => "word"
  | symbol => "symbol"
  | whitespace => "whitespace"
  | special => "special"

/-- The kind that a keyword or a short form stands for. -/
def ofKeyword? : String → Option Kind
  | "word" => some word
  | "symbol" => some symbol
  | "ws" | "whitespace" => some whitespace
  | "special" => some special
  | "unkn" | "unknown" => some unknown
  | _ => none

/-- White space between the tokens proper. -/
def isWhitespace (k : Kind) : Bool :=
  k == whitespace

theorem ofKeyword?_keyword (k : Kind) : ofKeyword? k.keyword = some k := by
  cases k <;> rfl

end Kind

end Motif.Token
