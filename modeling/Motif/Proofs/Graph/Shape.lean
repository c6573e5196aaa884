import Motif.Compile
import Motif.Proofs.Graph.Lowered
import Motif.Proofs.Pattern.Atom
import Motif.Proofs.Pattern.Place
import Motif.Regex.Standard

/-!
# The shape of graphs (specification §4.2 to §4.6, E4)

Which patterns can be lowered, and what their graphs look like, node by node. Lowering makes nodes
in the order of the places of a pattern, so a node has the number of the place that it stands for,
and what it holds stands for the parts of that place.

* `exists_lower_iff`: an element is lowered iff it can be lowered at each of its places.
* `lower_numbered`: the nodes that are made for an element have the numbers of the places in it.
* **`CompiledPattern.ofElements_depicts`**: which patterns are compiled, and what their graphs are.
-/

namespace Motif.Pattern

/-- A test whose regular expressions the engine builds. -/
def TokenTest.Compiles [RegexEngine] (t : TokenTest) : Prop :=
  ∀ c ∈ t.constraints, ∀ l, c.value = .regex l → (ValueRegex.compile? l.source l.flags).isSome

end Motif.Pattern

namespace Motif.Graph

open Pattern

/-! ## Numbered places -/

/-- `P` holds of the places of a list, which are numbered from `n`. -/
def Numbered (P : Nat → Place → Prop) (n : Nat) (ps : List Place) : Prop :=
  ∀ x ∈ ps.zipIdx n, P x.2 x.1

theorem numbered_append {P : Nat → Place → Prop} {n : Nat} {ps qs : List Place} :
    Numbered P n (ps ++ qs) ↔ Numbered P n ps ∧ Numbered P (n + ps.length) qs := by
  rw [Numbered, List.zipIdx_append, List.forall_mem_append]
  rfl

theorem numbered_singleton {P : Nat → Place → Prop} {n : Nat} {p : Place} :
    Numbered P n [p] ↔ P n p :=
  List.forall_mem_singleton

theorem numbered_getElem? (ps : List Place) : Numbered (fun i p => ps[i]? = some p) 0 ps := by
  rintro ⟨p, i⟩ h
  exact List.mk_mem_zipIdx_iff_getElem?.mp h

/-! ## What can be lowered -/

theorem exists_map_eq_ok_iff {α β ε : Type} {r : Except ε α} {f : α → β} :
    (∃ b, r.map f = .ok b) ↔ ∃ a, r = .ok a := by
  cases r with
  | error e => simp [Except.map]
  | ok a => simp [Except.map]

theorem exists_mapM_eq_ok_iff {α β ε : Type} {f : α → Except ε β} {as : List α} :
    (∃ bs, as.mapM f = .ok bs) ↔ ∀ a ∈ as, ∃ b, f a = .ok b := by
  induction as with
  | nil => simp [pure, Except.pure]
  | cons a as ih =>
    rw [List.mapM_cons, List.forall_mem_cons, ← ih]
    cases f a with
    | error e => simp [bind, Except.bind]
    | ok b => cases as.mapM f <;> simp [bind, Except.bind, pure, Except.pure]

variable [RegexEngine]

/-- An element that can be lowered at its place once its parts are: not a group of nothing, and with
regular expressions that can be compiled. -/
def Lowerable (p : Place) : Prop :=
  p.element ≠ .group [] ∧ ∀ t, p.element = .token t → t.Compiles

theorem lowerable_token {address : List Nat} {t : TokenTest} {after : List Element} :
    Lowerable ⟨address, .token t, after⟩ ↔ t.Compiles := by
  simp [Lowerable]

theorem lowerable_group {address : List Nat} {es after : List Element} :
    Lowerable ⟨address, .group es, after⟩ ↔ es ≠ [] := by
  simp [Lowerable]

/-- Elements of the other kinds can always be lowered once their parts are. -/
theorem lowerable_of_forall_ne {p : Place} (ht : ∀ t, p.element ≠ .token t)
    (hg : ∀ es, p.element ≠ .group es) : Lowerable p :=
  ⟨hg [], fun t h => absurd h (ht t)⟩

theorem exists_compile_value_iff {v : Expected} :
    (∃ w, ValueTest.compile v = .ok w) ↔
      ∀ l, v = .regex l → (ValueRegex.compile? l.source l.flags).isSome := by
  cases v with
  | text s | present => simp [ValueTest.compile]
  | regex l =>
    rw [ValueTest.compile]
    cases h : ValueRegex.compile? l.source l.flags with
    | none => simp [h]
    | some r => simp [h]

/-- A test can be compiled iff all its regular expressions can. -/
theorem exists_compile_iff {t : TokenTest} : (∃ a, Atom.compile t = .ok a) ↔ t.Compiles := by
  rw [Atom.compile, exists_map_eq_ok_iff, exists_mapM_eq_ok_iff]
  refine forall₂_congr fun c _ => ?_
  rw [PropertyTest.compile, exists_map_eq_ok_iff, exists_compile_value_iff]

/-- There is a first of some elements iff there are any. -/
theorem head_eq_none_iff {es : List Element} {exit head : Option Nat} {ar ar' : Arena}
    (h : lowerAll es exit ar = .ok (head, ar')) : head = none ↔ es = [] := by
  cases es with
  | nil =>
    unfold lowerAll at h
    exact iff_of_true (Prod.mk.inj (Except.ok.inj h)).1.symm rfl
  | cons e es =>
    have hne : head ≠ none := by
      unfold lowerAll at h
      split at h
      · cases h
      · obtain ⟨⟨id, ar2⟩, -, h⟩ := map_eq_ok h
        rw [← (Prod.mk.inj h).1]
        exact Option.some_ne_none id
    exact iff_of_false hne (List.cons_ne_nil e es)

mutual

/-- **An element is lowered** iff it can be lowered at each of its places. -/
theorem exists_lower_iff : ∀ (e : Element) (next : Option Nat) (ar : Arena) {address : List Nat}
    {after : List Element},
    (∃ r, lower e next ar = .ok r) ↔ ∀ p ∈ e.places address after, Lowerable p
  | .token t, next, ar, address, after => by
    rw [lower, exists_map_eq_ok_iff, exists_compile_iff, Element.places, List.forall_mem_singleton,
      lowerable_token]
  | .anchor s, next, ar, address, after => by
    rw [lower, Element.places, List.forall_mem_singleton]
    exact iff_of_true ⟨_, rfl⟩ (lowerable_of_forall_ne (by simp) (by simp))
  | .group es, next, ar, address, after => by
    rw [lower, Element.places, List.forall_mem_append, List.forall_mem_singleton, lowerable_group,
      ← exists_lowerAll_iff es next ar]
    cases h : lowerAll es next ar with
    | error e => simp
    | ok r =>
      obtain ⟨head, ar'⟩ := r
      have hne : head = none ↔ es = [] := head_eq_none_iff h
      cases head with
      | none => simpa using hne.mp rfl
      | some id => simpa using hne.not.mp (by simp)
  | .alternation es, next, ar, address, after => by
    rw [lower, exists_map_eq_ok_iff, Element.places, List.forall_mem_append,
      List.forall_mem_singleton, exists_lowerBranches_iff es]
    exact (and_iff_left (lowerable_of_forall_ne (by simp) (by simp))).symm
  | .negation e, next, ar, address, after | .repetition e q, next, ar, address, after => by
    rw [lower, exists_map_eq_ok_iff, Element.places, List.forall_mem_append,
      List.forall_mem_singleton, exists_lower_iff e]
    exact (and_iff_left (lowerable_of_forall_ne (by simp) (by simp))).symm

theorem exists_lowerAll_iff : ∀ (es : List Element) (exit : Option Nat) (ar : Arena)
    {address : List Nat} {after : List Element} {i : Nat},
    (∃ r, lowerAll es exit ar = .ok r) ↔ ∀ p ∈ Element.placesAll address after i es, Lowerable p
  | [], exit, ar, address, after, i => by
    simp [lowerAll, Element.placesAll]
  | e :: es, exit, ar, address, after, i => by
    rw [lowerAll, Element.placesAll, List.forall_mem_append,
      ← exists_lowerAll_iff es exit ar]
    cases h : lowerAll es exit ar with
    | error f => simp
    | ok r =>
      obtain ⟨head, ar'⟩ := r
      simp only [exists_map_eq_ok_iff, Except.ok.injEq, exists_eq', true_and]
      exact exists_lower_iff e _ ar'

theorem exists_lowerBranches_iff : ∀ (es : List Element) (exit : Option Nat) (ar : Arena)
    {address : List Nat} {after : List Element} {i : Nat},
    (∃ r, lowerBranches es exit ar = .ok r) ↔
      ∀ p ∈ Element.placesEach address after i es, Lowerable p
  | [], exit, ar, address, after, i => by
    simp [lowerBranches, Element.placesEach]
  | e :: es, exit, ar, address, after, i => by
    rw [lowerBranches, Element.placesEach, List.forall_mem_append,
      ← exists_lower_iff e exit ar]
    cases h : lower e exit ar with
    | error f => simp
    | ok r =>
      obtain ⟨id, ar'⟩ := r
      simp only [exists_map_eq_ok_iff, Except.ok.injEq, exists_eq', true_and]
      exact exists_lowerBranches_iff es exit ar'

end

/-! ## What comes after what -/

variable {g : Graph}

/-- What comes after the node of a number. -/
def next? (g : Graph) (id : Nat) : Option (Option Nat) :=
  (g.node? id).map (·.next)

/-- The nodes that are passed from `start` on, each being what comes after the one before it, until
`stop` comes. -/
inductive Route (g : Graph) : (start : Option Nat) → (ids : List Nat) → (stop : Option Nat) → Prop
  | done {stop : Option Nat} : Route g stop [] stop
  | step {id : Nat} {next stop : Option Nat} {ids : List Nat} : g.next? id = some next →
    Route g next ids stop → Route g (some id) (id :: ids) stop

/-- The nodes that a node holds, each with what has to come after it: the elements of a sequence
come one after the other and then what comes after the sequence, the branches of an alternation all
come before what comes after the alternation, and a body ends its scope. -/
def Holds (g : Graph) : Node → List Nat → Prop
  | .atom .., ids | .anchor .., ids => ids = []
  | .sequence head exit, ids => g.Route (some head) ids exit
  | .alternation branches exit, ids => ids = branches ∧ ∀ id ∈ branches, g.next? id = some exit
  | .repetition body .., ids | .negation body _, ids => ids = [body] ∧ g.next? body = some none

/-- Whether a node is of the kind of an element, and the same but for what it holds. -/
def Node.IsOf : Node → Element → Prop
  | atom a _, .token t => Atom.compile t = .ok a
  | anchor s _, .anchor s' => s = s'
  | sequence .., .group _ | alternation .., .alternation _ | negation .., .negation _ => True
  | repetition _ span _, .repetition _ q => span = q.span
  | _, _ => False

theorem Lowered.exists_node {e : Element} {id : Nat} {next : Option Nat} (h : Lowered g e id next) :
    ∃ n, g.node? id = some n ∧ n.next = next ∧ n.IsOf e := by
  cases h with
  | token ha hn => exact ⟨_, hn, rfl, ha⟩
  | anchor hn | repetition _ hn => exact ⟨_, hn, rfl, rfl⟩
  | group _ _ hn | alternation _ hn | negation _ hn => exact ⟨_, hn, rfl, trivial⟩

theorem Lowered.next?_eq {e : Element} {id : Nat} {next : Option Nat} (h : Lowered g e id next) :
    g.next? id = some next := by
  obtain ⟨n, hn, hx, -⟩ := h.exists_node
  rw [next?, hn, ← hx]
  rfl

theorem LoweredEach.next?_eq : ∀ {es : List Element} {ids : List Nat} {exit : Option Nat},
    LoweredEach g es ids exit → ∀ id ∈ ids, g.next? id = some exit
  | [], ids, exit, h => by
    cases h with
    | nil => exact List.forall_mem_nil _
  | e :: es, ids, exit, h => by
    cases h with
    | cons he hes => exact List.forall_mem_cons.mpr ⟨he.next?_eq, hes.next?_eq⟩

/-- Elements one after the other, and further ones after them. -/
theorem LoweredAll.append : ∀ {es fs : List Element} {head next exit : Option Nat},
    LoweredAll g es head next → LoweredAll g fs next exit → LoweredAll g (es ++ fs) head exit
  | [], _, _, _, _, .nil, hf => hf
  | _ :: _, _, _, _, _, .cons he hes, hf => .cons he (hes.append hf)

/-! ## Numbers of nodes -/

mutual

/-- One node is made for each element in an element, and the node of the element itself last. -/
theorem lower_size : ∀ {e : Element} {next : Option Nat} {ar ar' : Arena} {id : Nat},
    lower e next ar = .ok (id, ar') →
      ar'.nodes.size = ar.nodes.size + e.size ∧ id + 1 = ar'.nodes.size
  | .token t, next, ar, ar', id, h => by
    unfold lower at h
    obtain ⟨a, -, h⟩ := map_eq_ok h
    obtain ⟨rfl, rfl⟩ := Prod.mk.inj h
    exact ⟨Array.size_push _, (Array.size_push _).symm⟩
  | .anchor s, next, ar, ar', id, h => by
    unfold lower at h
    obtain ⟨rfl, rfl⟩ := Prod.mk.inj (Except.ok.inj h)
    exact ⟨Array.size_push _, (Array.size_push _).symm⟩
  | .group es, next, ar, ar', id, h => by
    unfold lower at h
    split at h
    · cases h
    · cases h
    · rename_i head ar1 hl
      obtain ⟨rfl, rfl⟩ := Prod.mk.inj (Except.ok.inj h)
      have hs := lowerAll_size hl
      exact ⟨(Array.size_push _).trans (congrArg (· + 1) hs), (Array.size_push _).symm⟩
  | .alternation es, next, ar, ar', id, h => by
    unfold lower at h
    obtain ⟨⟨ids, ar1⟩, hl, h⟩ := map_eq_ok h
    obtain ⟨rfl, rfl⟩ := Prod.mk.inj h
    have hs := lowerBranches_size hl
    exact ⟨(Array.size_push _).trans (congrArg (· + 1) hs), (Array.size_push _).symm⟩
  | .negation e, next, ar, ar', id, h | .repetition e q, next, ar, ar', id, h => by
    unfold lower at h
    obtain ⟨⟨body, ar1⟩, hl, h⟩ := map_eq_ok h
    obtain ⟨rfl, rfl⟩ := Prod.mk.inj h
    have hs := (lower_size hl).1
    exact ⟨(Array.size_push _).trans (congrArg (· + 1) hs), (Array.size_push _).symm⟩

theorem lowerAll_size : ∀ {es : List Element} {exit : Option Nat} {ar ar' : Arena}
    {head : Option Nat}, lowerAll es exit ar = .ok (head, ar') →
      ar'.nodes.size = ar.nodes.size + Element.sizeAll es
  | [], exit, ar, ar', head, h => by
    unfold lowerAll at h
    obtain ⟨-, rfl⟩ := Prod.mk.inj (Except.ok.inj h)
    rfl
  | e :: es, exit, ar, ar', head, h => by
    unfold lowerAll at h
    split at h
    · cases h
    · rename_i next ar1 hl
      obtain ⟨⟨id, ar2⟩, hl', h⟩ := map_eq_ok h
      obtain ⟨-, rfl⟩ := Prod.mk.inj h
      have hs := lowerAll_size hl
      have hs' := (lower_size hl').1
      rw [Element.sizeAll]
      omega

theorem lowerBranches_size : ∀ {es : List Element} {exit : Option Nat} {ar ar' : Arena}
    {ids : List Nat}, lowerBranches es exit ar = .ok (ids, ar') →
      ar'.nodes.size = ar.nodes.size + Element.sizeAll es
  | [], exit, ar, ar', ids, h => by
    unfold lowerBranches at h
    obtain ⟨-, rfl⟩ := Prod.mk.inj (Except.ok.inj h)
    rfl
  | e :: es, exit, ar, ar', ids, h => by
    unfold lowerBranches at h
    split at h
    · cases h
    · rename_i id ar1 hl
      obtain ⟨⟨ids', ar2⟩, hl', h⟩ := map_eq_ok h
      obtain ⟨-, rfl⟩ := Prod.mk.inj h
      have hs := (lower_size hl).1
      have hs' := lowerBranches_size hl'
      rw [Element.sizeAll]
      omega

end

/-- What is known of the node of a place when all places are `ps`: the rest of the scope is what
follows from the node on, and what the element holds is at the nodes that the node holds. -/
structure Shows (g : Graph) (ps : List Place) (id : Nat) (p : Place) : Prop where
  lowered : LoweredAll g p.rest (some id) none
  holds : ∃ n ids, g.node? id = some n ∧ g.Holds n ids ∧ ids.map (ps[·]?) = p.parts.map some

section

variable {ps : List Place}

mutual

/-- **The nodes that are made for an element** have the numbers of the places in it. -/
theorem lower_numbered : ∀ {e : Element} {next : Option Nat} {ar ar' : Arena} {id : Nat}
    {address : List Nat} {after : List Element}, lower e next ar = .ok (id, ar') →
      Includes g ar' → LoweredAll g after next none →
      Numbered (fun i p => ps[i]? = some p) ar.nodes.size (e.places address after) →
      ps[id]? = some ⟨address, e, after⟩ ∧
        Numbered (g.Shows ps) ar.nodes.size (e.places address after)
  | .token t, next, ar, ar', id, address, after, h, hg, hafter, hps => by
    have he := (lower_lowered h).2 hg
    have hn := hg
    unfold lower at h
    obtain ⟨a, ha, h⟩ := map_eq_ok h
    obtain ⟨rfl, rfl⟩ := Prod.mk.inj h
    rw [Element.places, numbered_singleton] at hps ⊢
    exact ⟨hps, .cons he hafter, _, [], hn.node?_add, rfl, rfl⟩
  | .anchor s, next, ar, ar', id, address, after, h, hg, hafter, hps => by
    have he := (lower_lowered h).2 hg
    have hn := hg
    unfold lower at h
    obtain ⟨rfl, rfl⟩ := Prod.mk.inj (Except.ok.inj h)
    rw [Element.places, numbered_singleton] at hps ⊢
    exact ⟨hps, .cons he hafter, _, [], hn.node?_add, rfl, rfl⟩
  | .group es, next, ar, ar', id, address, after, h, hg, hafter, hps => by
    have he := (lower_lowered h).2 hg
    have hn := hg
    unfold lower at h
    split at h
    · cases h
    · cases h
    · rename_i head ar1 hl
      obtain ⟨rfl, rfl⟩ := Prod.mk.inj (Except.ok.inj h)
      rw [Element.places, numbered_append, Element.length_placesAll, ← lowerAll_size hl,
        numbered_singleton] at hps ⊢
      obtain ⟨⟨ids, hroute, hids⟩, hshows⟩ :=
        lowerAll_numbered hl (hg.of_keeps (keeps_add _ _)) hafter hps.1
      exact ⟨hps.2, hshows, .cons he hafter, _, ids, hn.node?_add, hroute, hids⟩
  | .alternation es, next, ar, ar', id, address, after, h, hg, hafter, hps => by
    have he := (lower_lowered h).2 hg
    have hn := hg
    unfold lower at h
    obtain ⟨⟨ids, ar1⟩, hl, h⟩ := map_eq_ok h
    obtain ⟨rfl, rfl⟩ := Prod.mk.inj h
    rw [Element.places, numbered_append, Element.length_placesEach, ← lowerBranches_size hl,
      numbered_singleton] at hps ⊢
    have hg1 := hg.of_keeps (keeps_add _ _)
    obtain ⟨hids, hshows⟩ := lowerBranches_numbered hl hg1 hafter hps.1
    have hnext := ((lowerBranches_lowered hl).2 hg1).next?_eq
    exact ⟨hps.2, hshows, .cons he hafter, _, ids, hn.node?_add, ⟨rfl, hnext⟩, hids⟩
  | .negation e, next, ar, ar', id, address, after, h, hg, hafter, hps
  | .repetition e q, next, ar, ar', id, address, after, h, hg, hafter, hps => by
    have he := (lower_lowered h).2 hg
    have hn := hg
    unfold lower at h
    obtain ⟨⟨body, ar1⟩, hl, h⟩ := map_eq_ok h
    obtain ⟨rfl, rfl⟩ := Prod.mk.inj h
    rw [Element.places, numbered_append, Element.length_places, ← (lower_size hl).1,
      numbered_singleton] at hps ⊢
    have hg1 := hg.of_keeps (keeps_add _ _)
    obtain ⟨hbody, hshows⟩ := lower_numbered hl hg1 .nil hps.1
    have hnext := ((lower_lowered hl).2 hg1).next?_eq
    exact ⟨hps.2, hshows, .cons he hafter, _, [body], hn.node?_add, ⟨rfl, hnext⟩, by
      rw [List.map_singleton, hbody]
      rfl⟩

theorem lowerAll_numbered : ∀ {es : List Element} {exit head : Option Nat} {ar ar' : Arena}
    {address : List Nat} {after : List Element} {i : Nat}, lowerAll es exit ar = .ok (head, ar') →
      Includes g ar' → LoweredAll g after exit none →
      Numbered (fun i p => ps[i]? = some p) ar.nodes.size
        (Element.placesAll address after i es) →
      (∃ ids, g.Route (head.or exit) ids exit ∧
        ids.map (ps[·]?) = (inSequence address after i es).map some) ∧
      Numbered (g.Shows ps) ar.nodes.size (Element.placesAll address after i es)
  | [], exit, head, ar, ar', address, after, i, h, hg, hafter, hps => by
    unfold lowerAll at h
    obtain ⟨rfl, rfl⟩ := Prod.mk.inj (Except.ok.inj h)
    exact ⟨⟨[], .done, rfl⟩, List.forall_mem_nil _⟩
  | e :: es, exit, head, ar, ar', address, after, i, h, hg, hafter, hps => by
    unfold lowerAll at h
    split at h
    · cases h
    · rename_i next ar1 hl
      obtain ⟨⟨id, ar2⟩, hl', h⟩ := map_eq_ok h
      obtain ⟨rfl, rfl⟩ := Prod.mk.inj h
      rw [Element.placesAll, numbered_append, Element.length_placesAll, ← lowerAll_size hl]
        at hps ⊢
      have hg1 := hg.of_keeps (lower_lowered hl').1
      have hes := ((lowerAll_lowered hl).2.1 hg1).append hafter
      obtain ⟨⟨ids, hroute, hids⟩, hshows⟩ := lowerAll_numbered hl hg1 hafter hps.1
      obtain ⟨hid, hshows'⟩ := lower_numbered hl' hg hes hps.2
      have hnext := ((lower_lowered hl').2 hg).next?_eq
      refine ⟨⟨id :: ids, .step hnext hroute, ?_⟩, hshows, hshows'⟩
      rw [List.map_cons, hid, hids]
      rfl

theorem lowerBranches_numbered : ∀ {es : List Element} {exit : Option Nat} {ids : List Nat}
    {ar ar' : Arena} {address : List Nat} {after : List Element} {i : Nat},
    lowerBranches es exit ar = .ok (ids, ar') → Includes g ar' → LoweredAll g after exit none →
      Numbered (fun i p => ps[i]? = some p) ar.nodes.size
        (Element.placesEach address after i es) →
      ids.map (ps[·]?) = (inChoice address after i es).map some ∧
      Numbered (g.Shows ps) ar.nodes.size (Element.placesEach address after i es)
  | [], exit, ids, ar, ar', address, after, i, h, hg, hafter, hps => by
    unfold lowerBranches at h
    obtain ⟨rfl, rfl⟩ := Prod.mk.inj (Except.ok.inj h)
    exact ⟨rfl, List.forall_mem_nil _⟩
  | e :: es, exit, ids, ar, ar', address, after, i, h, hg, hafter, hps => by
    unfold lowerBranches at h
    split at h
    · cases h
    · rename_i id ar1 hl
      obtain ⟨⟨ids', ar2⟩, hl', h⟩ := map_eq_ok h
      obtain ⟨rfl, rfl⟩ := Prod.mk.inj h
      rw [Element.placesEach, numbered_append, Element.length_places, ← (lower_size hl).1]
        at hps ⊢
      have hg1 := hg.of_keeps (lowerBranches_lowered hl').1
      obtain ⟨hid, hshows⟩ := lower_numbered hl hg1 hafter hps.1
      obtain ⟨hids, hshows'⟩ := lowerBranches_numbered hl' hg hafter hps.2
      refine ⟨?_, hshows, hshows'⟩
      rw [List.map_cons, hid, hids]
      rfl

end

end

/-! ## Graphs of patterns -/

/-- What the graph of a pattern looks like. -/
structure Depicts (g : Graph) (es : List Element) : Prop where
  /-- There is a node for each element, and one for the pattern as a whole. -/
  size_eq : g.nodes.size = Element.sizeAll es + 1
  /-- Nodes are numbered like places, of which no two are the same. -/
  places_length : (places es).length = g.nodes.size
  places_pairwise : (places es).Pairwise (·.address ≠ ·.address)
  /-- The entry is the last node. It is a sequence that nothing comes after. -/
  entry_succ : g.entry + 1 = g.nodes.size
  entry_node : ∃ head, g.node? g.entry = some (.sequence head none)
  /-- What a node leads to has a smaller number. -/
  links : ∀ id n, g.node? id = some n → ∀ l ∈ n.links, l < id
  /-- A node is of the kind of the element at its place, and the nodes that it holds are those of
  the parts of the element, in order. -/
  node : ∀ id n, g.node? id = some n → ∃ p, (places es)[id]? = some p ∧ n.IsOf p.element ∧
    ∃ ids, g.Holds n ids ∧ ids.map ((places es)[·]?) = p.parts.map some
  /-- The start of the text is asked for by a node, and by an element. -/
  start_node : g.hasStartAnchor = true ↔ ∃ id next, g.node? id = some (.anchor .start next)
  start_element : g.hasStartAnchor = true ↔ ∃ p ∈ places es, p.element = .anchor .start

variable {es : List Element}

/-- **The nodes of a graph** show the places of the pattern. -/
theorem shows_ofElements (h : ofElements es = .ok g) {id : Nat} {p : Place}
    (hp : (places es)[id]? = some p) : g.Shows (places es) id p := by
  have hl := ofElements_eq_ok_iff.mp h
  have hshows := (lower_numbered hl (fun _ _ h => h) .nil (numbered_getElem? (places es))).2
  exact hshows (p, id) (List.mk_mem_zipIdx_iff_getElem?.mpr hp)

theorem size_ofElements (h : ofElements es = .ok g) :
    g.nodes.size = Element.sizeAll es + 1 ∧ g.entry + 1 = g.nodes.size := by
  obtain ⟨hs, he⟩ := lower_size (ofElements_eq_ok_iff.mp h)
  exact ⟨hs.trans (Nat.zero_add _), he⟩

/-- Every node has a place, which it shows. -/
theorem exists_shows (h : ofElements es = .ok g) {id : Nat} (hid : id < g.nodes.size) :
    ∃ p, (places es)[id]? = some p ∧ g.Shows (places es) id p := by
  have hlen : (places es).length = g.nodes.size :=
    (Element.length_places [] [] (.group es)).trans (size_ofElements h).1.symm
  have hp := List.getElem?_eq_getElem (hlen ▸ hid)
  exact ⟨_, hp, shows_ofElements h hp⟩

/-- Nodes are of the kinds of the elements at their places. -/
theorem Shows.isOf {ps : List Place} {id : Nat} {n : Node} {p : Place} (h : g.Shows ps id p)
    (hn : g.node? id = some n) : n.IsOf p.element := by
  cases h.lowered with
  | cons he _ =>
    obtain ⟨m, hm, -, hof⟩ := he.exists_node
    obtain rfl := Option.some.inj (hm.symm.trans hn)
    exact hof

theorem hasStartAnchor_iff :
    g.hasStartAnchor = true ↔ ∃ id next, g.node? id = some (.anchor .start next) := by
  rw [hasStartAnchor_eq, Array.any_eq_true']
  constructor
  · rintro ⟨n, hn, hs⟩
    obtain ⟨id, hid⟩ := Array.mem_iff_getElem?.mp hn
    unfold Node.isStartAnchor at hs
    split at hs
    · exact ⟨id, _, hid⟩
    · cases hs
  · rintro ⟨id, next, hn⟩
    exact ⟨_, Array.mem_of_getElem? hn, rfl⟩

/-- A node that is of the kind of the anchor of the start is one. -/
theorem Node.IsOf.eq_start {n : Node} (h : n.IsOf (.anchor .start)) :
    ∃ next, n = .anchor .start next := by
  cases n with
  | anchor s next =>
    obtain rfl : s = .start := h
    exact ⟨next, rfl⟩
  | atom a next | sequence head exit | alternation branches exit | negation body next
  | repetition body span next => cases h

/-- An element of whose kind an anchor of the start is, is one. -/
theorem Node.IsOf.eq_anchor {s : Sentinel} {next : Option Nat} {e : Element}
    (h : (Node.anchor s next).IsOf e) : e = .anchor s := by
  cases e with
  | anchor s' => exact congrArg Element.anchor (Eq.symm h)
  | token t | group es | alternation es | negation e | repetition e q => cases h

theorem depicts_ofElements (h : ofElements es = .ok g) : g.Depicts es := by
  obtain ⟨hsize, hentry⟩ := size_ofElements h
  have hnode : ∀ id n, g.node? id = some n →
      ∃ p, (places es)[id]? = some p ∧ n.IsOf p.element ∧
        ∃ ids, g.Holds n ids ∧ ids.map ((places es)[·]?) = p.parts.map some := by
    intro id n hn
    obtain ⟨p, hp, hshows⟩ := exists_shows h (Array.getElem?_eq_some_iff.mp hn).1
    obtain ⟨m, ids, hm, hids⟩ := hshows.holds
    obtain rfl := Option.some.inj (hm.symm.trans hn)
    exact ⟨p, hp, hshows.isOf hn, ids, hids⟩
  refine
    { size_eq := hsize
      places_length := (Element.length_places [] [] (.group es)).trans hsize.symm
      places_pairwise := Element.pairwise_places
      entry_succ := hentry
      entry_node := ?_
      links := fun id n hn l hl => link_lt hn hl
      node := hnode
      start_node := hasStartAnchor_iff
      start_element := ?_ }
  · cases lowered_ofElements h with
    | group _ _ hn => exact ⟨_, hn⟩
  · rw [hasStartAnchor_iff]
    constructor
    · rintro ⟨id, next, hn⟩
      obtain ⟨p, hp, hof, -⟩ := hnode id _ hn
      exact ⟨p, List.mem_of_getElem? hp, hof.eq_anchor⟩
    · rintro ⟨p, hp, hs⟩
      obtain ⟨id, hid⟩ := List.mem_iff_getElem?.mp hp
      obtain ⟨n, ids, hn, -⟩ := (shows_ofElements h hid).holds
      have hof := (shows_ofElements h hid).isOf hn
      rw [hs] at hof
      obtain ⟨next, rfl⟩ := hof.eq_start
      exact ⟨id, next, hn⟩

theorem exists_ofElements_iff :
    (∃ g, ofElements es = .ok g) ↔ ∀ p ∈ places es, Lowerable p := by
  rw [places, ← exists_lower_iff (.group es) none {}]
  constructor
  · rintro ⟨g, hg⟩
    exact ⟨_, ofElements_eq_ok_iff.mp hg⟩
  · rintro ⟨r, hr⟩
    unfold ofElements
    split
    · rename_i he
      cases he.symm.trans hr
    · exact ⟨_, rfl⟩

end Motif.Graph

namespace Motif.CompiledPattern

open Pattern

section

variable [RegexEngine]

/-- **Which patterns are compiled, and what their graphs are**: there has to be something in the
pattern and in every group, and the regular expressions have to be well formed. -/
theorem ofElements_depicts (es : List Element) (source : String) (options : Options) :
    ((∃ c, ofElements es source options = .ok c) ↔
      es ≠ [] ∧ (∀ p ∈ places es, p.element ≠ .group []) ∧
        ∀ p ∈ places es, ∀ t, p.element = .token t → t.Compiles) ∧
    ∀ c, ofElements es source options = .ok c → c.graph.Depicts es := by
  constructor
  · rw [ofElements, Graph.exists_map_eq_ok_iff, Graph.exists_ofElements_iff]
    simp only [Graph.Lowerable, forall_and]
    rw [iff_and_self]
    rintro ⟨hne, -⟩ rfl
    exact hne _ (List.mem_append_right _ (List.mem_singleton.mpr rfl)) rfl
  · intro c h
    obtain ⟨g, hg, rfl⟩ := Graph.map_eq_ok h
    exact Graph.depicts_ofElements hg

end

/-- Two branches, one of them in a repeated group, with an element after them. -/
theorem ofElements_depicts_branches :
    let es : List Element := [.alternation [.token ⟨some .word, []⟩,
      .repetition (.group [.token ⟨none, [⟨"text", .text "a"⟩]⟩, .anchor .start]) .star],
      .negation (.alternation [])]
    ∃ c, ofElements es "" {} = .ok c ∧ c.graph.Depicts es :=
  ⟨_, rfl, (ofElements_depicts _ "" {}).2 _ rfl⟩

end Motif.CompiledPattern
