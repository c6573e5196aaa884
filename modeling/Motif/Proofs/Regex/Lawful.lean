import Motif.Proofs.Regex.Matching
import Motif.Regex.Standard

/-!
# Lawful engines (specification E1.5)

What is relied on where it matters what an engine does: it builds only expressions that are well
formed, and finds a match iff some part of the text is matched. Neither says how. An engine may
refuse an expression for reasons of its own, such as its size, and it comes with tables of
properties of its own.

* **`Regex.lawful_engine`**: the engine that is used to run is lawful.
-/

namespace Motif

/-- An engine that does what expressions mean, whose properties are those of the tables. -/
class LawfulRegexEngine [RegexEngine] [Text.PropertyTables] : Prop where
  /-- Only expressions that are well formed are built. -/
  exists_parse {o : RegexOptions} {e : String} {r : RegexEngine.Compiled} :
    RegexEngine.build? o e = some r →
      ∃ t, Regex.parse? { toRegexOptions := o } e.toList = some t
  /-- An expression is searched for its matches. -/
  isMatch_iff {o : RegexOptions} {e : String} {r : RegexEngine.Compiled} {t : Regex} :
    RegexEngine.build? o e = some r → Regex.parse? { toRegexOptions := o } e.toList = some t →
      ∀ text : String, RegexEngine.isMatch r text = true ↔
        ∃ i j, i ≤ text.toList.length ∧ t.Matches text.toList i j

namespace Regex

/-- **The engine that is used to run** builds what is well formed and not too large, and searches
for what is matched. -/
instance lawful_engine : LawfulRegexEngine where
  exists_parse h := ⟨_, (Option.filter_eq_some_iff.mp h).1⟩
  isMatch_iff := by
    intro o e r t h ht text
    obtain rfl : r = t := Option.some.inj ((Option.filter_eq_some_iff.mp h).1.symm.trans ht)
    exact isMatch_iff

end Regex

end Motif
