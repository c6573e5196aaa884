import Motif.Text.CodePointSet

/-!
# Sets of characters byte by byte

In UTF-8 the characters of a set are written as byte sequences. They are listed here as blocks: one
range of bytes for each place of a sequence, every choice from the ranges being a sequence of the
block. Blocks are in the order of the characters, each as large as it can be.

* `length_of_mem_blocksFrom`: the blocks of a length class have the length of the class.
-/

namespace Motif.Text

/-- The bytes from `first` to `last`. -/
structure ByteRange where
  first : Nat
  last : Nat
  deriving DecidableEq

/-- A range of bytes for each place of a sequence. -/
abbrev Block := List ByteRange

/-- All bytes that may follow the first of a sequence. -/
def ByteRange.tail : ByteRange :=
  ⟨0x80, 0xBF⟩

/-- The blocks of the numbers from `lo` to `hi`, written with `n` digits to the base 64 after a
first digit of any size. The first digit is added to `mark`, another to the least byte of a tail.
A block with a first digit of its own is cut off at either end unless all digits after it are
there. -/
def blocksFrom (mark : Nat) : (n lo hi : Nat) → List Block
  | 0, lo, hi => [[⟨mark + lo, mark + hi⟩]]
  | n + 1, lo, hi =>
    let unit := Nat.pow 64 (n + 1)
    let under (digit lo hi : Nat) : List Block :=
      (blocksFrom ByteRange.tail.first n lo hi).map (⟨mark + digit, mark + digit⟩ :: ·)
    if lo / unit = hi / unit then under (lo / unit) (lo % unit) (hi % unit)
    else
      let before := if lo % unit = 0 then [] else under (lo / unit) (lo % unit) (unit - 1)
      let after := if (hi + 1) % unit = 0 then [] else under (hi / unit) 0 (hi % unit)
      let first := (lo + unit - 1) / unit
      let next := (hi + 1) / unit
      let whole :=
        if first < next then
          [⟨mark + first, mark + next - 1⟩ :: List.replicate (n + 1) ByteRange.tail]
        else []
      before ++ whole ++ after

/-- The classes of characters by the length of their sequences: the number of bytes after the
first, the first byte of the least sequence, and the first and the last character. -/
def lengthClasses : List (Nat × Nat × Nat × Nat) :=
  [(0, 0x00, 0x0, 0x7F), (1, 0xC0, 0x80, 0x7FF), (2, 0xE0, 0x800, 0xFFFF),
    (3, 0xF0, 0x10000, 0x10FFFF)]

/-- The blocks of a set of characters. -/
def CodePointSet.blocks (s : CodePointSet) : List Block :=
  s.runs.flatMap fun (lo, hi) =>
    lengthClasses.flatMap fun (n, mark, least, greatest) =>
      let lo := Nat.max lo least
      let hi := Nat.min hi greatest
      if lo ≤ hi then blocksFrom mark n lo hi else []

theorem length_of_mem_blocksFrom {mark n lo hi : Nat} {b : Block}
    (h : b ∈ blocksFrom mark n lo hi) : b.length = n + 1 := by
  induction n generalizing mark lo hi b with
  | zero =>
    obtain rfl := List.mem_singleton.mp h
    rfl
  | succ n ih =>
    have under : ∀ {r : ByteRange} {lo hi : Nat},
        b ∈ (blocksFrom ByteRange.tail.first n lo hi).map (r :: ·) → b.length = n + 1 + 1 := by
      intro r lo hi hb
      obtain ⟨b', hb', rfl⟩ := List.mem_map.mp hb
      simp [ih hb']
    unfold blocksFrom at h
    dsimp only at h
    split at h
    · exact under h
    · rcases List.mem_append.mp h with h | h
      · rcases List.mem_append.mp h with h | h
        · split at h
          · cases h
          · exact under h
        · split at h
          · obtain rfl := List.mem_singleton.mp h
            simp
          · cases h
      · split at h
        · cases h
        · exact under h

end Motif.Text
