import Motif.Regex.Syntax
import Motif.Total

/-!
# Expressions in normal form

What an expression amounts to, whichever way it is written: characters that follow one another are
one literal, nested sequences and choices are flat, a choice between characters is a set, and what
all branches of a choice begin with stands before it. The size of an expression is counted on its
normal form.

* `eq_of_same`: expressions that are alike are equal.
-/

namespace Motif.Regex

open Text (CodePointSet)

/-- An expression in normal form. Groups are there only for what they capture. -/
inductive Normal where
  | empty
  | literal (cs : List Char)
  | set (s : CodePointSet)
  | look (l : Look)
  | concat (rs : List Normal)
  | alternation (rs : List Normal)
  | capture (r : Normal)
  | repetition (r : Normal) (min : Nat) (max : Option Nat) (greedy : Bool)

namespace Normal

/-! ## Lengths of matches -/

/-- Whether an expression can match nothing but the empty text. -/
def isZeroWidth : Normal → Bool
  | empty | look _ => true
  | literal _ | set _ => false
  | concat rs | alternation rs => (rs.map isZeroWidth).all id
  | capture r | repetition r .. => r.isZeroWidth

/-- The fewest bytes that a match takes. There is no such number when a part of the expression
cannot match, whether or not others can. -/
def minLength? : Normal → Option Nat
  | empty | look _ => some 0
  | literal cs => some (total (cs.map (·.utf8Size)))
  | set s => s.runs.head?.map fun (lo, _) => (Char.ofNat lo).utf8Size
  | concat rs => ((rs.map minLength?).mapM id).map total
  | alternation rs => ((rs.map minLength?).mapM id).bind (·.min?)
  | capture r => r.minLength?
  | repetition r min .. => r.minLength?.map (· * min)

/-! ## Sameness -/

mutual

/-- Whether two expressions are alike to the last detail. Two captures never are, since they stand
for different groups. -/
def same : Normal → Normal → Bool
  | empty, empty => true
  | literal cs, literal ds => cs == ds
  | set s, set t => s == t
  | look l, look k => l == k
  | concat rs, concat ss => sameAll rs ss
  | alternation rs, alternation ss => sameAll rs ss
  | repetition r min max greedy, repetition s min' max' greedy' =>
    min == min' && max == max' && greedy == greedy' && same r s
  | _, _ => false

/-- Whether the expressions of two lists are alike one by one. -/
def sameAll : List Normal → List Normal → Bool
  | [], [] => true
  | r :: rs, s :: ss => same r s && sameAll rs ss
  | _, _ => false

end

/-! ## Building expressions -/

/-- The expression for one character of a set. -/
def ofSet (s : CodePointSet) : Normal :=
  match s.theOnly? with
  | some c => literal [c]
  | none => set s

/-- The expressions that an expression is a sequence of. -/
def elements : Normal → List Normal
  | concat rs => rs
  | r => [r]

/-- A sequence in which literals are joined and nothing is empty. -/
def joined : List Normal → List Normal
  | [] => []
  | r :: rs =>
    match r, joined rs with
    | empty, rest => rest
    | literal cs, literal ds :: rest => literal (cs ++ ds) :: rest
    | r, rest => r :: rest

/-- The expressions of a list one after the other. -/
def sequence (rs : List Normal) : Normal :=
  match joined (rs.flatMap elements) with
  | [] => empty
  | [r] => r
  | rs => concat rs

/-- The character that an expression is a literal of. -/
def character? : Normal → Option Char
  | literal [c] => some c
  | _ => none

/-- The set that an expression takes a character of. -/
def members? : Normal → Option CodePointSet
  | set s => some s
  | _ => none

/-- Any one of the expressions of a list. Characters make a set, as do sets. -/
def choice : List Normal → Normal
  | [r] => r
  | rs =>
    match rs.mapM character?, rs.mapM members? with
    | some cs, _ => ofSet (.ofList (cs.map (·.toNat)))
    | none, some ss => ofSet (.unions ss)
    | none, none => alternation rs

/-- The expressions that an expression is a choice between. -/
def branches : Normal → List Normal
  | alternation rs => rs
  | r => [r]

/-- How many expressions two sequences have in common before they differ. -/
def agreement : List Normal → List Normal → Nat
  | r :: rs, s :: ss => if same r s then agreement rs ss + 1 else 0
  | _, _ => 0

/-- How many expressions all branches begin with, if all are sequences. -/
def commonStart (rs : List Normal) : Nat :=
  match rs.mapM fun | concat ss => some ss | _ => none with
  | some (ss :: sss) => sss.foldl (fun n ts => Nat.min n (agreement ss ts)) ss.length
  | _ => 0

/-- Any one of the expressions of a list, what all of them begin with being put before the
choice. -/
def factoredChoice (rs : List Normal) : Normal :=
  let rs := rs.flatMap branches
  match commonStart rs, rs with
  | n + 1, r :: _ :: _ =>
    sequence (r.elements.take (n + 1) ++
      [choice ((rs.map fun r => sequence (r.elements.drop (n + 1))).flatMap branches)])
  | _, _ => choice rs

/-- An expression repeated. What takes no characters is not repeated more than once. -/
def repeated (r : Normal) (min : Nat) (max : Option Nat) (greedy : Bool) : Normal :=
  let min := if r.isZeroWidth then Nat.min min 1 else min
  let max := if r.isZeroWidth then some (max.elim 1 (Nat.min · 1)) else max
  match min, max with
  | 0, some 0 => empty
  | 1, some 1 => r
  | min, max => repetition r min max greedy

end Normal

/-- The normal form of an expression. -/
def normal : Regex → Normal
  | empty => .empty
  | char s _ => .ofSet s
  | look l => .look l
  | concat rs => .sequence (rs.map normal)
  | alternation rs => .factoredChoice (rs.map normal)
  | group r captures =>
    let n := r.normal
    if captures then .capture n else n
  | repetition r min max greedy => r.normal.repeated min max greedy

/-! ## Expressions that are alike are equal -/

namespace Normal

mutual

theorem eq_of_same {r s : Normal} (h : same r s = true) : r = s := by
  cases r <;> cases s
  case empty.empty => rfl
  case literal.literal | set.set | look.look => simpa [same] using h
  case concat.concat | alternation.alternation =>
    rw [same] at h
    rw [eq_of_sameAll h]
  case repetition.repetition =>
    simp only [same, Bool.and_eq_true, beq_iff_eq] at h
    obtain ⟨⟨⟨rfl, rfl⟩, rfl⟩, h⟩ := h
    rw [eq_of_same h]
  all_goals simp [same] at h

theorem eq_of_sameAll : ∀ {rs ss : List Normal}, sameAll rs ss = true → rs = ss
  | [], [], _ => rfl
  | _ :: _, _ :: _, h => by
    simp only [sameAll, Bool.and_eq_true] at h
    rw [eq_of_same h.1, eq_of_sameAll h.2]

end

end Normal

end Motif.Regex
