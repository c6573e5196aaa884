import Motif.Token.Value

/-!
# Properties of a token (specification §3, E2)

The properties of a token are a finite map from names to values. It is kept as a list of entries
that is strictly sorted by name, so two maps with the same content are equal.

`get?`, `contains` and `insert` are those of a map.

Out of scope: the order in which a map goes through its entries.

* `get?_insert`: reading after a write.
-/

namespace Motif.Token

/-- A finite map from names to values, its entries strictly sorted by name. -/
structure Properties where
  entries : List (String × Value)
  sorted : entries.Pairwise (·.1 < ·.1)

namespace Properties

instance : DecidableEq Properties := fun p q =>
  decidable_of_iff (p.entries = q.entries) (by cases p; cases q; simp)

instance : EmptyCollection Properties := ⟨⟨[], .nil⟩⟩

/-- Whether there are no properties. -/
def isEmpty (p : Properties) : Bool :=
  p.entries.isEmpty

/-- The value of a property, if the token has it. -/
def get? (p : Properties) (name : String) : Option Value :=
  p.entries.lookup name

/-- Whether the token has a property. -/
def contains (p : Properties) (name : String) : Bool :=
  (p.get? name).isSome

/-- Writes an entry at its place in a sorted list, over the one of the same name if there is one. -/
def insertEntry (name : String) (value : Value) : List (String × Value) → List (String × Value)
  | [] => [(name, value)]
  | e :: es =>
    if name < e.1 then (name, value) :: e :: es
    else if name = e.1 then (name, value) :: es
    else e :: insertEntry name value es

theorem mem_insertEntry {name : String} {value : Value} {x : String × Value}
    {es : List (String × Value)} (h : x ∈ insertEntry name value es) :
    x = (name, value) ∨ x ∈ es := by
  induction es with
  | nil => simpa [insertEntry] using h
  | cons e es ih =>
    unfold insertEntry at h
    split at h
    · simpa using h
    · split at h
      · rcases List.mem_cons.mp h with h | h
        · exact .inl h
        · exact .inr (List.mem_cons_of_mem _ h)
      · rcases List.mem_cons.mp h with h | h
        · exact .inr (h ▸ List.mem_cons_self)
        · exact (ih h).imp_right (List.mem_cons_of_mem _)

theorem insertEntry_sorted (name : String) (value : Value) {es : List (String × Value)}
    (h : es.Pairwise (·.1 < ·.1)) : (insertEntry name value es).Pairwise (·.1 < ·.1) := by
  induction es with
  | nil => simp [insertEntry]
  | cons e es ih =>
    have hes := List.pairwise_cons.mp h
    unfold insertEntry
    split
    · rename_i hlt
      refine List.pairwise_cons.mpr ⟨fun x hx => ?_, h⟩
      rcases List.mem_cons.mp hx with rfl | hx
      · exact hlt
      · exact String.lt_trans hlt (hes.1 x hx)
    · split
      · rename_i heq
        exact List.pairwise_cons.mpr ⟨fun x hx => heq ▸ hes.1 x hx, hes.2⟩
      · rename_i hlt hne
        refine List.pairwise_cons.mpr ⟨fun x hx => ?_, ih hes.2⟩
        rcases mem_insertEntry hx with rfl | hx
        · rcases Std.lt_trichotomy name e.1 with h | h | h
          · exact absurd h hlt
          · exact absurd h hne
          · exact h
        · exact hes.1 x hx

/-- The map with one property written. -/
def insert (p : Properties) (name : String) (value : Value) : Properties :=
  ⟨insertEntry name value p.entries, insertEntry_sorted name value p.sorted⟩

theorem lookup_cons_eq_ite (q : String) (e : String × Value) (es : List (String × Value)) :
    (e :: es).lookup q = if q = e.1 then some e.2 else es.lookup q := by
  by_cases h : q = e.1
  · subst h
    exact (List.lookup_cons_self ..).trans (if_pos rfl).symm
  · rw [List.lookup_cons, beq_false_of_ne h, if_neg h]

theorem lookup_insertEntry (name q : String) (value : Value) (es : List (String × Value)) :
    (insertEntry name value es).lookup q = if q = name then some value else es.lookup q := by
  induction es with
  | nil => simp [insertEntry, lookup_cons_eq_ite]
  | cons e es ih =>
    unfold insertEntry
    split
    · rw [lookup_cons_eq_ite]
    · split <;> grind [lookup_cons_eq_ite]

/-- Reading after a write. -/
theorem get?_insert (p : Properties) (name q : String) (value : Value) :
    (p.insert name value).get? q = if q = name then some value else p.get? q :=
  lookup_insertEntry name q value p.entries

end Properties

end Motif.Token
