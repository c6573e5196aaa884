/-!
# Sets of code points

A set of code points is stored by its boundaries in increasing order: the first code point of each
run in the set and the first one after it. A code point belongs to the set when an odd number of
boundaries lie at or below it, and that number is found by bisection. Two sets are combined by one
sweep over the boundaries of both.
-/

namespace Motif.Text

/-- A set of code points, given by its boundaries in increasing order. -/
structure CodePointSet where
  bounds : Array Nat
  deriving DecidableEq

namespace CodePointSet

/-! ## Membership -/

/-- How many of the boundaries from `lo` up to `hi` lie at or below `n`, counted from the start of
the array, when all boundaries before `lo` do and none from `hi` on does. -/
def rank (s : CodePointSet) (n lo hi : Nat) : Nat :=
  if h : lo < hi then
    let mid := (lo + hi) / 2
    if s.bounds.getD mid 0 ≤ n then s.rank n (mid + 1) hi else s.rank n lo mid
  else lo
termination_by hi - lo

/-- Whether a code point belongs to the set. -/
def has (s : CodePointSet) (n : Nat) : Bool :=
  s.rank n 0 s.bounds.size % 2 == 1

/-- Whether a character belongs to the set. -/
def contains (s : CodePointSet) (c : Char) : Bool :=
  s.has c.toNat

/-! ## Building sets -/

/-- The set without members. -/
def empty : CodePointSet :=
  ⟨#[]⟩

/-- All code points of characters: all there are but the surrogates. -/
def all : CodePointSet :=
  ⟨#[0, 0xD800, 0xE000, 0x110000]⟩

/-- The set of one character. -/
def single (c : Char) : CodePointSet :=
  ⟨#[c.toNat, c.toNat + 1]⟩

/-- The boundaries of two sets in order, each with whether it is one of the first set and of the
second. -/
def merge : List Nat → List Nat → List (Nat × Bool × Bool)
  | [], bs => bs.map (·, false, true)
  | as, [] => as.map (·, true, false)
  | a :: as, b :: bs =>
    if a < b then (a, true, false) :: merge as (b :: bs)
    else if b < a then (b, false, true) :: merge (a :: as) bs
    else (a, true, true) :: merge as bs
termination_by as bs => as.length + bs.length

/-- The boundaries at which `f` changes, `inA` and `inB` saying whether the code points before all
of them belong to the first set and to the second. -/
def sweep (f : Bool → Bool → Bool) (inA inB : Bool) : List (Nat × Bool × Bool) → List Nat
  | [] => []
  | (n, a, b) :: es =>
    let rest := sweep f (inA ^^ a) (inB ^^ b) es
    if f (inA ^^ a) (inB ^^ b) = f inA inB then rest else n :: rest

/-- The code points for which `f` holds of their being in the one set and in the other. The
operation `f` is false of a code point in neither. -/
def combine (f : Bool → Bool → Bool) (s t : CodePointSet) : CodePointSet :=
  ⟨(sweep f false false (merge s.bounds.toList t.bounds.toList)).toArray⟩

/-- The code points in any of two sets. -/
def union : CodePointSet → CodePointSet → CodePointSet :=
  combine (· || ·)

/-- The code points in both of two sets. -/
def inter : CodePointSet → CodePointSet → CodePointSet :=
  combine (· && ·)

/-- The code points in the first of two sets alone. -/
def diff : CodePointSet → CodePointSet → CodePointSet :=
  combine (fun a b => a && !b)

/-- The code points in exactly one of two sets. -/
def symmDiff : CodePointSet → CodePointSet → CodePointSet :=
  combine (· != ·)

/-- The characters that are not in the set. -/
def compl (s : CodePointSet) : CodePointSet :=
  all.diff s

/-- The characters from `lo` to `hi`. -/
def range (lo hi : Char) : CodePointSet :=
  all.inter ⟨#[lo.toNat, hi.toNat + 1]⟩

/-- The code points in any of the sets of a list, which is halved to keep the sweeps short. -/
def unions (ss : List CodePointSet) : CodePointSet :=
  match h : ss with
  | [] => empty
  | [s] => s
  | _ :: _ :: _ => (unions (ss.take (ss.length / 2))).union (unions (ss.drop (ss.length / 2)))
termination_by ss.length
decreasing_by all_goals simp only [h, List.length_take, List.length_drop, List.length_cons]; omega

/-- The code points of a list. -/
def ofList (ns : List Nat) : CodePointSet :=
  unions (ns.map fun n => ⟨#[n, n + 1]⟩)

/-- The code points of runs, each given by its first and its last one. The runs are in increasing
order and do not touch. -/
def ofRuns (rs : List (Nat × Nat)) : CodePointSet :=
  ⟨(rs.flatMap fun (lo, hi) => [lo, hi + 1]).toArray⟩

/-! ## Looking at sets -/

/-- The runs of a set, each by its first and its last code point. -/
def runs (s : CodePointSet) : List (Nat × Nat) :=
  pairs s.bounds.toList
where
  /-- The boundaries of a list two by two. -/
  pairs : List Nat → List (Nat × Nat)
    | lo :: next :: ns => (lo, next - 1) :: pairs ns
    | _ => []

/-- The only member of a set that has one. -/
def theOnly? (s : CodePointSet) : Option Char :=
  match s.runs with
  | [(lo, hi)] => if lo = hi then some (.ofNat lo) else none
  | _ => none

/-- Whether all members of a set belong to ASCII. -/
def isAscii (s : CodePointSet) : Bool :=
  s.bounds.all (· ≤ 0x80)

end CodePointSet

end Motif.Text
