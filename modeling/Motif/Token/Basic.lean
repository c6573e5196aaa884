import Motif.Text.Quoted
import Motif.Token.Kind
import Motif.Token.Properties

/-!
# Tokens (specification §3, E2)

A token is one classified piece of text with properties. Patterns also see the two ends of a text,
so what a matcher is fed are symbols: tokens and sentinels.

A constraint on the property `text` is about the text of the token itself; a stored property of
that name is never consulted (`propertyText_text`).

`get?`, `has`, `set`, `withText`, `propertyText?` and `merge` are the calls `get`, `has`, `set`,
`with_text`, `property_text` and `merge`; `describe` is how a token is displayed.
-/

namespace Motif

/-- One classified piece of text. -/
structure Token where
  kind : Token.Kind := .unknown
  text : String := ""
  properties : Token.Properties := ∅
  deriving DecidableEq

namespace Token

/-- The name by which constraints address the text of a token. -/
def textName : String := "text"

/-- The value of a stored property. -/
def get? (t : Token) (name : String) : Option Value :=
  t.properties.get? name

/-- Whether a property is stored. -/
def has (t : Token) (name : String) : Bool :=
  t.properties.contains name

/-- The token with one property written. -/
def set (t : Token) (name : String) (value : Value) : Token :=
  { t with properties := t.properties.insert name value }

/-- The token with another text. -/
def withText (t : Token) (text : String) : Token :=
  { t with text }

/-- The text that constraints on a property compare with: the text of the token for the name
`text`, else the text of the stored value. -/
def propertyText? (t : Token) (name : String) : Option String :=
  if name = textName then some t.text else (t.get? name).map (·.asText)

/-- One token of unknown kind with the joined texts of several, and without properties. -/
def merge (ts : List Token) : Token :=
  { text := String.join (ts.map (·.text)) }

/-- The keyword of the kind, and the text in quotes. -/
def describe (t : Token) : String :=
  t.kind.keyword ++ ": " ++ Text.quoted t.text

theorem propertyText_text (t : Token) : t.propertyText? textName = some t.text :=
  if_pos rfl

theorem get?_set (t : Token) (name q : String) (value : Value) :
    (t.set name value).get? q = if q = name then some value else t.get? q :=
  t.properties.get?_insert name q value

end Token

/-- The two ends of a text. -/
inductive Sentinel where
  | start
  | finish
  deriving DecidableEq, Repr

/-- What a matcher is fed: tokens, with a sentinel before the first and after the last. -/
inductive Symbol where
  | sentinel (s : Sentinel)
  | token (t : Token)
  deriving DecidableEq

end Motif
