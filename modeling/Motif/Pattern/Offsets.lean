import Motif.Pattern.Cursor

/-!
# Byte indices (specification E1.5)

The bytes of a text, and the table of its characters with the index of the first byte of each. The
table is in order, so the character at an index is found by halving. A part of a text is taken
between two indices, and only where both are boundaries of characters.

* `partitionPoint_eq`: halving finds where the elements end that satisfy a test.
* `bytesFrom?_eq`, `part?_eq`: what stands from a character on, and what between two.
* `findIdx?_utf8`: two characters of ASCII are found among the bytes where they are found among the
  characters, as no byte of another character is one of theirs (`mem_utf8EncodeChar`).
-/

namespace Motif.Pattern

/-! ## Halving -/

/-- The number from `lo` to `hi` up to which `p` holds, if it holds of none from there on. -/
def bisect (p : Nat → Bool) (lo hi : Nat) : Nat :=
  if lo < hi then
    let mid := lo + (hi - lo) / 2
    if p mid then bisect p (mid + 1) hi else bisect p lo mid
  else lo
termination_by hi - lo

theorem le_bisect {p : Nat → Bool} {n lo hi : Nat} (hp : ∀ k < n, p k = true) (hn : n ≤ hi) :
    n ≤ bisect p lo hi := by
  fun_induction bisect p lo hi with
  | case1 lo hi _ mid _ ih => exact ih hn
  | case2 lo hi _ mid hmid ih =>
    refine ih (Nat.le_of_not_lt fun hlt => ?_)
    exact hmid (hp mid hlt)
  | case3 lo hi hlt => exact Nat.le_trans hn (Nat.le_of_not_lt hlt)

theorem bisect_le {p : Nat → Bool} {n lo hi : Nat} (hp : ∀ k, n ≤ k → p k = false) (hn : lo ≤ n) :
    bisect p lo hi ≤ n := by
  fun_induction bisect p lo hi with
  | case1 lo hi _ mid hmid ih =>
    refine ih (Nat.lt_of_not_le fun hle => ?_)
    rw [hp mid hle] at hmid
    cases hmid
  | case2 lo hi _ mid _ ih => exact ih hn
  | case3 => exact hn

/-- How many elements satisfy `p`, if they all stand before the others. -/
def partitionPoint {α : Type} (p : α → Bool) (xs : Array α) : Nat :=
  bisect (fun k => xs[k]?.any p) 0 xs.size

section

variable {α : Type} {p : α → Bool} {xs : Array α} {n : Nat}

theorem le_partitionPoint (hn : n ≤ xs.size) (hp : ∀ k < n, xs[k]?.any p = true) :
    n ≤ partitionPoint p xs :=
  le_bisect hp hn

theorem partitionPoint_le (hp : ∀ k, n ≤ k → xs[k]?.any p = false) : partitionPoint p xs ≤ n :=
  bisect_le hp (Nat.zero_le n)

/-- Halving finds where the elements end that satisfy a test. -/
theorem partitionPoint_eq (hn : n ≤ xs.size) (hp : ∀ k < n, xs[k]?.any p = true)
    (hq : ∀ k, n ≤ k → xs[k]?.any p = false) : partitionPoint p xs = n :=
  Nat.le_antisymm (partitionPoint_le hq) (le_partitionPoint hn hp)

end

/-! ## Characters and their indices -/

/-- Characters with the indices of their first bytes, that of the first being `i`. -/
def charIndices (i : Nat) : List Char → List (Nat × Char)
  | [] => []
  | c :: cs => (i, c) :: charIndices (i + c.utf8Size) cs

@[simp] theorem length_charIndices (i : Nat) (cs : List Char) :
    (charIndices i cs).length = cs.length := by
  induction cs generalizing i with
  | nil => rfl
  | cons c cs ih => rw [charIndices, List.length_cons, List.length_cons, ih]

theorem getElem?_charIndices (i : Nat) (cs : List Char) (k : Nat) :
    (charIndices i cs)[k]? = cs[k]?.map fun c => (i + byteLength (cs.take k), c) := by
  induction cs generalizing i k with
  | nil => rfl
  | cons c cs ih =>
    cases k with
    | zero => rfl
    | succ k =>
      rw [charIndices, List.getElem?_cons_succ, List.getElem?_cons_succ, ih, List.take_succ_cons,
        byteLength_cons, Nat.add_assoc]

theorem byteLength_take_le (cs : List Char) {m n : Nat} (h : m ≤ n) :
    byteLength (cs.take m) ≤ byteLength (cs.take n) := by
  obtain ⟨k, rfl⟩ := Nat.exists_eq_add_of_le h
  rw [List.take_add, byteLength_append]
  exact Nat.le_add_right _ _

/-- Characters take up room, so their indices grow. -/
theorem byteLength_take_lt (cs : List Char) {m n : Nat} (h : m < n) (hm : m < cs.length) :
    byteLength (cs.take m) < byteLength (cs.take n) := by
  refine Nat.lt_of_lt_of_le ?_ (byteLength_take_le cs h)
  rw [List.take_succ_eq_append_getElem hm, byteLength_append, byteLength_cons]
  exact Nat.lt_add_of_pos_right (Nat.add_pos_left (Char.utf8Size_pos _) _)

/-! ## Bytes -/

theorem length_utf8 (cs : List Char) :
    (cs.flatMap String.utf8EncodeChar).length = byteLength cs := by
  induction cs with
  | nil => rfl
  | cons c cs ih =>
    rw [List.flatMap_cons, List.length_append, String.length_utf8EncodeChar, ih, byteLength_cons]

theorem bytes_ofList (cs : List Char) :
    (String.ofList cs).toUTF8.data.toList = cs.flatMap String.utf8EncodeChar := by
  rw [String.toUTF8_eq_toByteArray, String.toByteArray_ofList, List.utf8Encode,
    List.data_toByteArray]

theorem utf8ByteSize_ofList_eq_byteLength (cs : List Char) :
    (String.ofList cs).utf8ByteSize = byteLength cs := by
  rw [← length_utf8, ← bytes_ofList]
  rfl

theorem utf8ByteSize_eq_byteLength (s : String) : s.utf8ByteSize = byteLength s.toList := by
  rw [← utf8ByteSize_ofList_eq_byteLength, String.ofList_toList]

/-- The bytes of a text from an index on, if the text reaches so far. -/
def bytesFrom? (s : String) (i : Nat) : Option (List UInt8) :=
  if i ≤ s.utf8ByteSize then some (s.toUTF8.data.toList.drop i) else none

/-- What comes after some characters, byte by byte. -/
theorem bytesFrom?_eq {s : String} {u v : List Char} (h : s.toList = u ++ v) :
    bytesFrom? s (byteLength u) = some (v.flatMap String.utf8EncodeChar) := by
  have hle : byteLength u ≤ s.utf8ByteSize := by
    rw [utf8ByteSize_eq_byteLength, h, byteLength_append]
    exact Nat.le_add_right _ _
  have hbytes : s.toUTF8.data.toList =
      u.flatMap String.utf8EncodeChar ++ v.flatMap String.utf8EncodeChar := by
    rw [← List.flatMap_append, ← h, ← bytes_ofList, String.ofList_toList]
  rw [bytesFrom?, if_pos hle, hbytes, List.drop_left' (length_utf8 u)]

/-- The part of a text between two indices, if these are boundaries of its characters. -/
def part? (s : String) (i j : Nat) : Option String :=
  if h : String.Pos.Raw.IsValid s ⟨i⟩ ∧ String.Pos.Raw.IsValid s ⟨j⟩ ∧ i ≤ j then
    some (s.extract ⟨⟨i⟩, h.1⟩ ⟨⟨j⟩, h.2.1⟩)
  else none

theorem isValid_byteLength {s : String} {u v : List Char} (h : s.toList = u ++ v) :
    String.Pos.Raw.IsValid s ⟨byteLength u⟩ := by
  rw [String.Pos.Raw.isValid_iff_exists_append]
  refine ⟨.ofList u, .ofList v, ?_, ?_⟩
  · rw [← String.ofList_append, ← h, String.ofList_toList]
  · rw [← utf8ByteSize_ofList_eq_byteLength]
    rfl

/-- What stands between two characters. -/
theorem part?_eq {s : String} {u v w : List Char} (h : s.toList = u ++ (v ++ w)) :
    part? s (byteLength u) (byteLength u + byteLength v) = some (.ofList v) := by
  have hu := isValid_byteLength h
  have hv : String.Pos.Raw.IsValid s ⟨byteLength u + byteLength v⟩ := by
    rw [← byteLength_append]
    exact isValid_byteLength (h.trans (List.append_assoc u v w).symm)
  rw [part?, dif_pos ⟨hu, hv, Nat.le_add_right _ _⟩, Option.some_inj, ← String.toByteArray_inj,
    String.toByteArray_extract]
  have hs : s.toByteArray = (String.ofList u).toByteArray ++
      ((String.ofList v).toByteArray ++ (String.ofList w).toByteArray) := by
    rw [← String.toByteArray_append, ← String.toByteArray_append, ← String.ofList_append,
      ← String.ofList_append, ← h, String.ofList_toList]
  have hsize (cs : List Char) : byteLength cs = (String.ofList cs).toByteArray.size :=
    (utf8ByteSize_ofList_eq_byteLength cs).symm
  show s.toByteArray.extract (byteLength u + 0) (byteLength u + byteLength v) = _
  rw [hs, hsize u, hsize v, ByteArray.extract_append_size_add, ByteArray.extract_append_eq_left rfl]

/-- No part ends within a character. -/
example : part? "aé" 1 2 = none := by decide

/-! ## Two bytes at once -/

/-- `find a b bytes` is the index of the first byte that is `a` or `b`, if there is one. -/
def FindsEither (find : UInt8 → UInt8 → List UInt8 → Option Nat) : Prop :=
  ∀ a b bytes, find a b bytes = bytes.findIdx? fun x => x == a || x == b

theorem utf8EncodeChar_ascii {c : Char} (hc : c.toNat < 128) :
    String.utf8EncodeChar c = [c.toUInt8] := by
  refine String.utf8EncodeChar_eq_singleton (Char.utf8Size_eq_one_iff.mpr ?_)
  rw [UInt32.le_iff_toNat_le]
  exact Nat.le_of_lt_succ hc

/-- No byte of another character is that of a character of ASCII. -/
theorem mem_utf8EncodeChar {c d : Char} (hd : d.toNat < 128) :
    d.toUInt8 ∈ String.utf8EncodeChar c ↔ c = d := by
  have hbyte : d.toUInt8.toNat = d.toNat := by
    show d.toNat % 256 = d.toNat
    exact Nat.mod_eq_of_lt (Nat.lt_trans hd (by decide))
  have hchar : c = d ↔ c.val.toNat = d.toNat := by
    rw [← Char.toNat_inj]
    rfl
  rw [hchar]
  fun_cases String.utf8EncodeChar c
  all_goals
    simp only [List.mem_cons, List.not_mem_nil, or_false, ← UInt8.toNat_inj, UInt8.toNat_ofNat',
      hbyte]
    omega

/-- Either of two characters of ASCII is found among the bytes where it is found among the
characters. -/
theorem findIdx?_utf8 {a b : Char} (ha : a.toNat < 128) (hb : b.toNat < 128) (cs : List Char) :
    (cs.flatMap String.utf8EncodeChar).findIdx? (fun x => x == a.toUInt8 || x == b.toUInt8) =
      (cs.findIdx? fun c => c == a || c == b).map fun n => byteLength (cs.take n) := by
  induction cs with
  | nil => rfl
  | cons c cs ih =>
    rw [List.flatMap_cons, List.findIdx?_append, List.findIdx?_cons, ih]
    by_cases hc : c = a ∨ c = b
    · have hlt : c.toNat < 128 := by
        rcases hc with rfl | rfl
        · exact ha
        · exact hb
      have hbyte : (c.toUInt8 == a.toUInt8 || c.toUInt8 == b.toUInt8) = true := by
        rcases hc with rfl | rfl <;> simp
      rw [utf8EncodeChar_ascii hlt, List.findIdx?_singleton, if_pos hbyte,
        if_pos (by simpa using hc)]
      rfl
    · have hnone : (String.utf8EncodeChar c).findIdx?
          (fun x => x == a.toUInt8 || x == b.toUInt8) = none := by
        rw [List.findIdx?_eq_none_iff]
        intro x hx
        rw [Bool.or_eq_false_iff, beq_eq_false_iff_ne, beq_eq_false_iff_ne]
        constructor
        · rintro rfl
          exact hc (.inl ((mem_utf8EncodeChar ha).mp hx))
        · rintro rfl
          exact hc (.inr ((mem_utf8EncodeChar hb).mp hx))
      rw [hnone, Option.none_or, if_neg (by simpa using hc), Option.map_map, Option.map_map]
      refine congrArg (Option.map · _) (funext fun n => ?_)
      simp only [Function.comp_apply, List.take_succ_cons, byteLength_cons,
        String.length_utf8EncodeChar, Nat.add_comm]

end Motif.Pattern
