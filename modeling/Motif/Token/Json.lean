import Motif.Json
import Motif.Token.Basic

/-!
# Tokens as JSON (specification E1.5, E2)

A token is written as an object with the fields `kind`, `text` and, unless there are none,
`properties`. A kind is written by its name, a flag, number or text as the JSON value of that sort.

Reading is a little more lenient: fields it does not know are passed over, a token may also be an
array of its fields in order (the properties may be missing there too), and a kind may also be an
object whose only field is its name, holding null.

Out of scope: objects with a field that stands twice, and the order in which properties are
written.
-/

namespace Motif.Token

namespace Kind

/-- The name of a kind in JSON. -/
def name : Kind → String
  | unknown => "Unknown"
  | word => "Word"
  | symbol => "Symbol"
  | whitespace => "Whitespace"
  | special => "Special"

/-- The kind of a name. -/
def ofName? : String → Option Kind
  | "Unknown" => some unknown
  | "Word" => some word
  | "Symbol" => some symbol
  | "Whitespace" => some whitespace
  | "Special" => some special
  | _ => none

/-- A kind as JSON. -/
def toJson (k : Kind) : Json :=
  .string k.name

/-- Reads a kind. -/
def ofJson? : Json → Option Kind
  | .string s => ofName? s
  | .object [(s, .null)] => ofName? s
  | _ => none

theorem ofJson?_toJson (k : Kind) : ofJson? k.toJson = some k := by
  cases k <;> rfl

end Kind

namespace Value

/-- A property value as JSON. -/
def toJson : Value → Json
  | flag b => .bool b
  | number n => .integer n.toInt
  | text s => .string s

/-- Reads a property value. -/
def ofJson? : Json → Option Value
  | .bool b => some (flag b)
  | .string s => some (text s)
  | j => j.asInt64?.map number

theorem ofJson?_toJson (v : Value) : ofJson? v.toJson = some v := by
  cases v with
  | number n => simp [toJson, ofJson?, Json.asInt64?_integer_toInt]
  | _ => rfl

end Value

namespace Properties

/-- Properties as JSON. -/
def toJson (p : Properties) : Json :=
  .object (p.entries.map fun e => (e.1, e.2.toJson))

/-- Reads properties. -/
def ofJson? : Json → Option Properties
  | .object fields => fields.foldlM (fun p f => (Value.ofJson? f.2).map (p.insert f.1)) ∅
  | _ => none

end Properties

/-- A token as JSON. -/
def toJson (t : Token) : Json :=
  .object <| [("kind", t.kind.toJson), ("text", .string t.text)] ++
    if t.properties.isEmpty then [] else [("properties", t.properties.toJson)]

/-- The token of three fields as they were found, the last of which may be missing. -/
def ofFields? (kind text : Json) (properties : Option Json) : Option Token := do
  let kind ← Kind.ofJson? kind
  let text ← text.asString?
  let properties ← properties.elim (some ∅) Properties.ofJson?
  return { kind, text, properties }

/-- Reads a token. -/
def ofJson? : Json → Option Token
  | .object fields => do
    let kind ← Json.field? fields "kind"
    let text ← Json.field? fields "text"
    ofFields? kind text (Json.field? fields "properties")
  | .array [kind, text] => ofFields? kind text none
  | .array [kind, text, properties] => ofFields? kind text (some properties)
  | _ => none

end Motif.Token
