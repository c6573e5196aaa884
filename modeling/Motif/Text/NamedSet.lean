import Motif.Text.CodePointSet

/-!
# Named sets

Sets of characters that are called by name. Names are compared loosely: a leading `is` and the
difference between capital and small letters, spaces, hyphens and underscores do not count.
-/

namespace Motif.Text

/-- A set of characters with the names that it is called by, which are written without capital
letters and anything between the words. -/
structure NamedSet where
  names : List String
  points : CodePointSet

/-- The set of a list that has the name. -/
def NamedSet.find? (sets : List NamedSet) (name : String) : Option CodePointSet :=
  (List.find? (·.names.contains name) sets).map (·.points)

/-- The characters of a name that count. The name `isc` is one of its own. -/
def looseName (name : List Char) : String :=
  let counting (cs : List Char) : List Char :=
    (cs.filter fun c => c.toNat < 0x80 && c != ' ' && c != '-' && c != '_').map Char.toLower
  match name with
  | i :: s :: rest =>
    if i.toLower = 'i' ∧ s.toLower = 's' then
      match counting rest with
      | ['c'] => "isc"
      | cs => .ofList cs
    else .ofList (counting name)
  | name => .ofList (counting name)

end Motif.Text
