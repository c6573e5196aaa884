import Mathlib
import Motif.Token.Json

/-!
# Tokens that are written and read back (specification E1.5, E2)

A token is written as an object; its properties are an object of their own, whose fields may stand
in any order, and which is left out if there are none. A value is read as the flag, the number or
the text that it is written as and as nothing else, so no property changes its type.

* `Value.ofJson?_eq_some_iff`: the one form in which a value is read.
* `Properties.field?_of_ofJson?`: what is read as properties are the fields of the object.
* `Properties.ofJson?_of_perm`: properties are read from their fields in any order.
* **`ofJson?_written`**: a token is read back from whatever it may be written as.
-/

namespace Motif

namespace Token

/-! ## Property values -/

namespace Value

/-- **A value is read** from the one form in which it is written, and from nothing else. -/
theorem ofJson?_eq_some_iff {j : Json} {v : Value} : ofJson? j = some v ↔ j = v.toJson := by
  constructor
  · intro h
    unfold ofJson? at h
    split at h
    · obtain rfl := Option.some.inj h
      rfl
    · obtain rfl := Option.some.inj h
      rfl
    · obtain ⟨n, hn, rfl⟩ := Option.map_eq_some_iff.mp h
      unfold Json.asInt64? at hn
      split at hn
      · split at hn
        · rename_i hrange
          obtain rfl := Option.some.inj hn
          have hlt : _ < (2 : Int) ^ 63 := Int.lt_of_le_of_lt hrange.2 (by decide)
          exact congrArg Json.integer (Int64.toInt_ofInt_of_le hrange.1 hlt).symm
        · cases hn
      · cases hn
  · rintro rfl
    exact ofJson?_toJson v

/-- Values of different types, or different values of one type, are written differently. -/
theorem toJson_injective : Function.Injective toJson := by
  intro v w h
  exact Option.some.inj ((ofJson?_toJson v).symm.trans (ofJson?_eq_some_iff.mpr h))

end Value

/-! ## Properties -/

namespace Properties

variable {p q : Properties} {name : String} {v : Value}

/-- Among entries with different names, the one that is found is the one that is there. -/
theorem lookup_eq_some_iff {es : List (String × Value)} (h : (es.map (·.1)).Nodup) :
    es.lookup name = some v ↔ (name, v) ∈ es := by
  induction es with
  | nil => simp
  | cons e es ih =>
    obtain ⟨hne, hes⟩ := List.nodup_cons.mp h
    rw [lookup_cons_eq_ite, List.mem_cons]
    split
    · rename_i hname
      have hnot : (name, v) ∉ es := by
        intro hmem
        exact hne (List.mem_map.mpr ⟨_, hmem, hname⟩)
      rw [or_iff_left hnot, hname, Option.some_inj, Prod.ext_iff, and_iff_right rfl, eq_comm]
    · rename_i hname
      rw [ih hes, or_iff_right fun he => hname (congrArg Prod.fst he)]

theorem nodup_names (p : Properties) : (p.entries.map (·.1)).Nodup :=
  List.pairwise_map.mpr (p.sorted.imp fun h => String.ne_of_lt h)

theorem get?_eq_some_iff : p.get? name = some v ↔ (name, v) ∈ p.entries :=
  lookup_eq_some_iff p.nodup_names

/-- Properties are the same if they have the same values. -/
theorem eq_of_get?_eq (h : ∀ name, p.get? name = q.get? name) : p = q := by
  have hmem (e : String × Value) : e ∈ p.entries ↔ e ∈ q.entries := by
    rw [← get?_eq_some_iff, ← get?_eq_some_iff, h]
  have hperm : p.entries.Perm q.entries :=
    (List.perm_ext_iff_of_nodup p.nodup_names.of_map q.nodup_names.of_map).mpr hmem
  have heq : p.entries = q.entries := by
    refine hperm.eq_of_pairwise (fun a b _ _ hab hba => ?_) p.sorted q.sorted
    exact absurd (String.lt_trans hab hba) (String.lt_irrefl _)
  obtain ⟨es, hes⟩ := p
  obtain ⟨fs, hfs⟩ := q
  obtain rfl : es = fs := heq
  rfl

/-- Of the fields of one name the last counts, and before that the value which is already there. -/
theorem get?_of_foldlM {fields : List (String × Json)}
    (h : fields.foldlM (fun p f => (Value.ofJson? f.2).map (p.insert f.1)) p = some q)
    (name : String) :
    (q.get? name).map Value.toJson =
      (Json.field? fields name).or ((p.get? name).map Value.toJson) := by
  induction fields generalizing p with
  | nil =>
    obtain rfl : p = q := Option.some.inj h
    rfl
  | cons f fields ih =>
    obtain ⟨n, j⟩ := f
    rw [List.foldlM_cons] at h
    obtain ⟨p', hp, h⟩ := Option.bind_eq_some_iff.mp h
    obtain ⟨v, hv, rfl⟩ := Option.map_eq_some_iff.mp hp
    obtain rfl : j = v.toJson := Value.ofJson?_eq_some_iff.mp hv
    rw [ih h, get?_insert, Json.field?, Json.field?, List.reverse_cons, List.lookup_append,
      Option.or_assoc]
    congr 1
    by_cases hname : name = n
    · simp [hname]
    · simp [hname, List.lookup_cons, beq_false_of_ne hname]

/-- **What is read as properties** are the fields of the object, each with the value that is written
there. -/
theorem field?_of_ofJson? {fields : List (String × Json)} (h : ofJson? (.object fields) = some p)
    (name : String) : Json.field? fields name = (p.get? name).map Value.toJson := by
  have hempty : Properties.get? ∅ name = none := rfl
  rw [get?_of_foldlM h, hempty, Option.map_none, Option.or_none]

/-- An object is read as properties if every field holds a value. -/
theorem exists_ofJson?_of_forall {fields : List (String × Json)}
    (h : ∀ f ∈ fields, ∃ v : Value, f.2 = v.toJson) : ∃ p, ofJson? (.object fields) = some p := by
  show ∃ q, fields.foldlM _ ∅ = some q
  generalize (∅ : Properties) = p
  induction fields generalizing p with
  | nil => exact ⟨p, rfl⟩
  | cons f fields ih =>
    obtain ⟨⟨v, hv⟩, hfields⟩ := List.forall_mem_cons.mp h
    rw [List.foldlM_cons, hv, Value.ofJson?_toJson]
    exact ih hfields (p.insert f.1 v)

/-- A field of an object that is made of entries holds the entry of that name. -/
theorem field?_map_toJson (es : List (String × Value)) (name : String) :
    Json.field? (es.map fun e => (e.1, e.2.toJson)) name =
      (es.reverse.lookup name).map Value.toJson := by
  rw [Json.field?, ← List.map_reverse]
  induction es.reverse with
  | nil => rfl
  | cons e es ih =>
    rw [List.map_cons, List.lookup_cons, lookup_cons_eq_ite, ih]
    by_cases hname : name = e.1
    · simp [hname]
    · simp [hname, beq_false_of_ne hname]

/-- **Properties are read from their fields** in whatever order these are written. -/
theorem ofJson?_of_perm {es : List (String × Value)} (h : es.Perm p.entries) :
    ofJson? (.object (es.map fun e => (e.1, e.2.toJson))) = some p := by
  have hvalues : ∀ f ∈ es.map fun e => (e.1, e.2.toJson), ∃ v : Value, f.2 = v.toJson := by
    intro f hf
    obtain ⟨e, -, rfl⟩ := List.mem_map.mp hf
    exact ⟨e.2, rfl⟩
  obtain ⟨q, hq⟩ := exists_ofJson?_of_forall hvalues
  have hrev : es.reverse.Perm p.entries := es.reverse_perm.trans h
  have hnodup : (es.reverse.map (·.1)).Nodup := (hrev.map _).nodup_iff.mpr p.nodup_names
  have hqp : q = p := by
    refine eq_of_get?_eq fun name => Option.map_injective Value.toJson_injective ?_
    rw [← field?_of_ofJson? hq, field?_map_toJson]
    congr 1
    ext v
    rw [lookup_eq_some_iff hnodup, hrev.mem_iff, get?_eq_some_iff]
  rw [hq, hqp]

end Properties

/-! ## Tokens -/

/-- What a token may be written as: an object with its kind, its text and, unless there are none,
its properties in any order. -/
inductive WrittenAs (t : Token) : Json → Prop
  | bare : t.properties = ∅ →
    WrittenAs t (.object [("kind", t.kind.toJson), ("text", .string t.text)])
  | full {es : List (String × Value)} : t.properties ≠ ∅ → es.Perm t.properties.entries →
    WrittenAs t (.object [("kind", t.kind.toJson), ("text", .string t.text),
      ("properties", .object (es.map fun e => (e.1, e.2.toJson)))])

theorem Properties.isEmpty_iff {p : Properties} : p.isEmpty = true ↔ p = ∅ := by
  obtain ⟨es, hes⟩ := p
  cases es with
  | nil => exact iff_of_true rfl rfl
  | cons e es => exact iff_of_false Bool.false_ne_true fun h => by cases h

theorem writtenAs_toJson (t : Token) : t.WrittenAs t.toJson := by
  unfold toJson
  split
  · rename_i h
    exact .bare (Properties.isEmpty_iff.mp h)
  · rename_i h
    exact .full (fun he => h (Properties.isEmpty_iff.mpr he)) (.refl _)

theorem ofFields?_toJson (t : Token) {properties : Option Json}
    (h : properties.elim (some ∅) Properties.ofJson? = some t.properties) :
    ofFields? t.kind.toJson (.string t.text) properties = some t := by
  simp [ofFields?, Kind.ofJson?_toJson, Json.asString?, h]

theorem WrittenAs.ofJson? {t : Token} {j : Json} (h : t.WrittenAs j) :
    Token.ofJson? j = some t := by
  cases h with
  | bare hnone => exact ofFields?_toJson t (congrArg some hnone.symm)
  | full _ hperm => exact ofFields?_toJson t (Properties.ofJson?_of_perm hperm)

/-- **A token is read back from whatever it may be written as**, with its properties in any order
and left out if there are none; so it is if it was itself read from something else. A property value
is read from the one form in which it is written, so what is read as properties are the fields of
the object with the values that are written there, each of its type. -/
theorem ofJson?_written :
    (∀ t : Token, t.WrittenAs t.toJson) ∧
    (∀ (t : Token) (j : Json), t.WrittenAs j → Token.ofJson? j = some t) ∧
    (∀ (i j : Json) (t : Token), Token.ofJson? i = some t → t.WrittenAs j →
      Token.ofJson? j = some t) ∧
    (∀ (j : Json) (v : Value), Value.ofJson? j = some v ↔ j = v.toJson) ∧
    ∀ (fields : List (String × Json)) (p : Properties),
      Properties.ofJson? (.object fields) = some p →
      ∀ name, Json.field? fields name = (p.get? name).map Value.toJson :=
  ⟨writtenAs_toJson, fun _ _ h => h.ofJson?, fun _ _ _ _ h => h.ofJson?,
    fun _ _ => Value.ofJson?_eq_some_iff, fun _ _ h => Properties.field?_of_ofJson? h⟩

/-- A token with the number one, its text, and the smallest number, which are written in another
order than that of their names; it is also read from an array. -/
theorem ofJson?_written_number :
    let t : Token := ((({ kind := .word, text := "é" } : Token).set "n" (.number 1)).set "s"
      (.text "1")).set "least" (.number Int64.minValue)
    let fields : List (String × Json) :=
      [("s", .string "1"), ("n", .integer 1), ("least", .integer (-2 ^ 63))]
    let i : Json := .array [.object [("Word", .null)], .string "é", .object fields]
    let j : Json :=
      .object [("kind", .string "Word"), ("text", .string "é"), ("properties", .object fields)]
    t.WrittenAs j ∧ Token.ofJson? j = some t ∧ Token.ofJson? i = some t ∧
      Json.field? fields "n" = (t.get? "n").map Value.toJson := by
  intro t fields i j
  have hperm : [("s", Value.text "1"), ("n", .number 1), ("least", .number Int64.minValue)].Perm
      t.properties.entries := by decide
  have hj : t.WrittenAs j := .full (by decide) hperm
  have hfields : Properties.ofJson? (.object fields) = some t.properties :=
    Properties.ofJson?_of_perm hperm
  have hi : Token.ofJson? i = some t := ofFields?_toJson t hfields
  exact ⟨hj, ofJson?_written.2.2.1 i j t hi hj, hi, ofJson?_written.2.2.2.2 fields _ hfields "n"⟩

end Token

end Motif
