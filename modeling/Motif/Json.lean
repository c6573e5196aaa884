/-!
# JSON values (specification E1.5)

The values that tokens, property values and options are written as and read from. A number written
without fraction or exponent is an `integer` of any size; every other number is a `decimal`.

Out of scope: how a value is written in characters.
-/

namespace Motif

/-- A JSON value. `decimal m e` is the number `m / 10 ^ e`. -/
inductive Json where
  | null
  | bool (b : Bool)
  | integer (n : Int)
  | decimal (mantissa : Int) (exponent : Nat)
  | string (s : String)
  | array (items : List Json)
  | object (fields : List (String × Json))
  deriving Inhabited

namespace Json

/-- The value of a field of an object; the last one counts when a name is repeated. -/
def field? (fields : List (String × Json)) (name : String) : Option Json :=
  fields.reverse.lookup name

/-- The truth value that is written. -/
def asBool? : Json → Option Bool
  | .bool b => some b
  | _ => none

/-- The text that is written. -/
def asString? : Json → Option String
  | .string s => some s
  | _ => none

/-- The unsigned 64-bit number that is written. -/
def asUInt64? : Json → Option UInt64
  | .integer n => if 0 ≤ n ∧ n.toNat < UInt64.size then some (.ofNat n.toNat) else none
  | _ => none

/-- The signed 64-bit number that is written. -/
def asInt64? : Json → Option Int64
  | .integer n =>
    if Int64.minValue.toInt ≤ n ∧ n ≤ Int64.maxValue.toInt then some (.ofInt n) else none
  | _ => none

theorem asInt64?_integer_toInt (n : Int64) : asInt64? (.integer n.toInt) = some n := by
  rw [asInt64?, if_pos ⟨n.minValue_le_toInt, n.toInt_le⟩, Int64.ofInt_toInt]

end Json

end Motif
