import Motif.Pattern.Scanner

/-!
# Scanning and reading (specification E1.5)

A scanner searches the bytes of a pattern for the end of a literal and takes over what is before it
in one piece; a reader looks at one character after the other. Both come to the same: what a scanner
does is described by the reading that lies ahead of it (`outlook`), which no round changes.

* `round_outlook`: a round has a result, and keeps the reading ahead.
* `loop_outlook`: so scanning comes to what lies ahead at its start.
* **`seen_literals`**: texts, regular expressions and words are scanned as they are read.
-/

namespace Motif.Pattern

/-! ## Literals character by character -/

namespace Reading

theorem map_map {α β γ : Type} (f : α → β) (g : β → γ) (r : Reading α) :
    (r.map f).map g = r.map (g ∘ f) := by
  rcases r with e | ⟨a, b⟩ <;> rfl

theorem map_append_ofList (value : String) (u : List Char) (r : Reading (List Char)) :
    (r.map (u ++ ·)).map (fun cs => value ++ .ofList cs) =
      r.map fun cs => value ++ .ofList u ++ .ofList cs := by
  rw [map_map]
  refine congrArg (Reading.map · r) (funext fun cs => ?_)
  rw [Function.comp_apply, String.ofList_append, String.append_assoc]

theorem map_empty_append (r : Reading (List Char)) :
    r.map (fun cs => "" ++ .ofList cs) = r.map String.ofList :=
  congrArg (Reading.map · r) (funext fun _ => String.empty_append)

end Reading

namespace Delimiter

/-- Reads the rest of a literal, `i` being the index of the next character. -/
def readRest (d : Delimiter) (start : Nat) : List Char → (i : Nat) → Reading (List Char)
  | [], _ => .error (d.unclosed start)
  | c :: cs, i =>
    if c = d.mark then .ok ([], .past i c cs)
    else if c = '\\' then
      match cs with
      | [] => .error (.loneEscape i)
      | e :: cs =>
        match d.escape e i with
        | .error f => .error f
        | .ok v => (d.readRest start cs (i + byteLength ['\\', e])).map (v ++ ·)
    else (d.readRest start cs (i + c.utf8Size)).map (c :: ·)

/-- A character that stands for itself. -/
def Plain (d : Delimiter) (c : Char) : Prop :=
  c ≠ d.mark ∧ c ≠ '\\'

section

variable {d : Delimiter} {start : Nat} {c e : Char} {cs : List Char} {i : Nat}

/-- The mark ends the literal. -/
theorem readRest_mark : d.readRest start (d.mark :: cs) i = .ok ([], .past i d.mark cs) := by
  cases cs <;> simp [readRest]

/-- A backslash at the end of the text escapes nothing. -/
theorem readRest_lone (h : '\\' ≠ d.mark) :
    d.readRest start ['\\'] i = .error (.loneEscape i) := by
  simp [readRest, h]

/-- An escape is read as its delimiter says. -/
theorem readRest_escape (h : '\\' ≠ d.mark) :
    d.readRest start ('\\' :: e :: cs) i =
      match d.escape e i with
      | .error f => .error f
      | .ok v => (d.readRest start cs (i + byteLength ['\\', e])).map (v ++ ·) := by
  rw [readRest, if_neg h, if_pos rfl]

/-- Every other character stands for itself. -/
theorem readRest_plain (h : d.Plain c) :
    d.readRest start (c :: cs) i = (d.readRest start cs (i + c.utf8Size)).map (c :: ·) := by
  cases cs <;> simp [readRest, h.1, h.2]

/-- Characters that stand for themselves are read as they are. -/
theorem readRest_append {u : List Char} (hu : ∀ c ∈ u, d.Plain c) (v : List Char) (i : Nat) :
    d.readRest start (u ++ v) i = (d.readRest start v (i + byteLength u)).map (u ++ ·) := by
  induction u generalizing i with
  | nil =>
    rw [List.nil_append, byteLength_nil, Nat.add_zero]
    rcases d.readRest start v i with e | ⟨w, a⟩ <;> rfl
  | cons c u ih =>
    obtain ⟨hc, hu⟩ := List.forall_mem_cons.mp hu
    rw [List.cons_append, readRest_plain hc, ih hu, Reading.map_map, byteLength_cons,
      Nat.add_assoc]
    rfl

end

/-- With quotes, this is what reads a text. -/
theorem readRest_quote (start : Nat) (cs : List Char) (i : Nat) :
    quote.readRest start cs i = readText start cs i := by
  fun_induction readText start cs i with
  | case1 => rfl
  | case2 => exact readRest_mark
  | case3 => exact readRest_lone (by decide)
  | case4 e cs i c hc ih =>
    rw [readRest_escape (by decide), ← ih]
    simp [quote, hc]
  | case5 e cs i hc =>
    rw [readRest_escape (by decide)]
    simp [quote, hc]
  | case6 c cs i hmark hlast hescape ih =>
    rw [readRest_plain ⟨hmark, ne_backslash hlast hescape⟩, ih]

/-- With slashes, it is what reads the source of a regular expression. -/
theorem readRest_slash (start : Nat) (cs : List Char) (i : Nat) :
    slash.readRest start cs i = readSource start cs i := by
  fun_induction readSource start cs i with
  | case1 => rfl
  | case2 => exact readRest_mark
  | case3 => exact readRest_lone (by decide)
  | case4 cs i ih =>
    rw [readRest_escape (by decide), ← ih]
    simp [slash]
  | case5 e cs i he ih =>
    rw [readRest_escape (by decide), ← ih]
    simp [slash, show e ≠ '/' from he]
  | case6 c cs i hmark hlast hslash hescape ih =>
    rw [readRest_plain ⟨hmark, ne_backslash hlast hescape⟩, ih]

end Delimiter

/-! ## What a scanner sees -/

namespace Scanner

variable {text : String} {s : Scanner text} {u v : List Char} {c : Char}

/-- The characters from a scanner on, with the byte index of the first. -/
def cursor (s : Scanner text) : Cursor :=
  ⟨text.toList.drop s.place, s.byteIndex⟩

/-- A result of scanning as one of reading. -/
def seen {α : Type} (r : Scan text α) : Reading α :=
  Except.map (Prod.map id cursor) r

/-- What is seen of a value that is made of another. -/
theorem seen_map {α β : Type} (f : α → β) (r : Scan text α) : seen (r.map f) = (seen r).map f := by
  rcases r with e | ⟨a, t⟩ <;> rfl

/-- What fails as seen fails in the scanner. -/
theorem seen_eq_error {α : Type} {r : Scan text α} {f : Fault} (h : seen r = .error f) :
    r = .error f := by
  rcases r with e | ⟨a, t⟩
  · exact congrArg _ (Except.error.inj h)
  · cases h

/-- What is read as seen is read in the scanner, which ends at the same place. -/
theorem seen_eq_ok {α : Type} {r : Scan text α} {v : α} {a : Cursor} (h : seen r = .ok (v, a)) :
    ∃ t, r = .ok (v, t) ∧ t.cursor = a := by
  rcases r with e | ⟨w, t⟩
  · cases h
  · obtain ⟨rfl, rfl⟩ := Prod.mk.inj (Except.ok.inj h)
    exact ⟨t, rfl, rfl⟩

/-- The scanner peeks at the next character of its cursor. -/
theorem peek_eq_head? (s : Scanner text) : s.peek = s.cursor.rest.head? := by
  rw [peek_eq, cursor, List.head?_drop]

theorem toList_eq (h : s.cursor.rest = u) : text.toList = text.toList.take s.place ++ u := by
  rw [← h]
  exact (List.take_append_drop _ _).symm

/-- Moving over characters moves the cursor by their bytes. -/
theorem cursor_moved (h : s.cursor.rest = u ++ v) :
    (s.moved u.length).cursor = ⟨v, s.byteIndex + byteLength u⟩ := by
  have hdrop : text.toList.drop s.place = u ++ v := h
  rw [cursor, byteIndex_eq, byteIndex_eq]
  show Cursor.mk (text.toList.drop (s.place + u.length))
    (byteLength (text.toList.take (s.place + u.length))) = _
  rw [← List.drop_drop, List.take_add, hdrop, List.drop_left, List.take_left, byteLength_append]

theorem cursor_moved_one (h : s.cursor.rest = c :: v) :
    (s.moved 1).cursor = .past s.byteIndex c v :=
  cursor_moved (u := [c]) h

/-- The next character is read, and the scanner is behind it. -/
theorem next?_eq (h : s.cursor.rest = c :: v) : s.next? = some (c, s.moved 1) := by
  rw [next?, peek_eq_head?, h]
  rfl

theorem next?_eq_none (h : s.cursor.rest = []) : s.next? = none := by
  rw [next?, peek_eq_head?, h]
  rfl

theorem byteIndex_moved (h : s.cursor.rest = u ++ v) :
    (s.moved u.length).byteIndex = s.byteIndex + byteLength u :=
  congrArg Cursor.index (cursor_moved h)

/-- Every character is found by its byte index. -/
theorem seek_byteLength_take (s : Scanner text) {n : Nat} (hn : n ≤ text.toList.length) :
    s.seek (byteLength (text.toList.take n)) = { s with place := n } := by
  have hplace : partitionPoint (·.1 < byteLength (text.toList.take n)) s.chars = n := by
    refine partitionPoint_eq (by rwa [size_chars]) (fun k hk => ?_) fun k hk => ?_
    · have hlt := Nat.lt_of_lt_of_le hk hn
      rw [getElem?_chars, List.getElem?_eq_getElem hlt]
      simpa using byteLength_take_lt text.toList hk hlt
    · rw [getElem?_chars]
      cases text.toList[k]? with
      | none => rfl
      | some c => simpa using byteLength_take_le text.toList hk
  rw [seek, hplace]

/-- Seeking a byte index at which a character begins finds that character. -/
theorem seek_eq (h : s.cursor.rest = u ++ c :: v) :
    s.seek (s.byteIndex + byteLength u) = s.moved u.length := by
  have hlen : text.toList.length - s.place = (u ++ c :: v).length := by
    rw [← h]
    exact List.length_drop.symm
  rw [List.length_append, List.length_cons] at hlen
  have hle : s.place + u.length ≤ text.toList.length := by omega
  rw [← byteIndex_moved h, byteIndex_eq]
  exact s.seek_byteLength_take hle

/-- From where the scanner is, the bytes are those of the characters that are left. -/
theorem bytesFrom?_byteIndex (s : Scanner text) :
    bytesFrom? text s.byteIndex = some (s.cursor.rest.flatMap String.utf8EncodeChar) := by
  rw [byteIndex_eq]
  exact bytesFrom?_eq (toList_eq rfl)

/-- Between two characters, a slice of the bytes is the text between them. -/
theorem part?_byteIndex (h : s.cursor.rest = u ++ v) :
    part? text s.byteIndex (s.byteIndex + byteLength u) = some (.ofList u) := by
  rw [byteIndex_eq]
  exact part?_eq (toList_eq h)

end Scanner

/-! ## Rounds -/

namespace Delimiter

open Scanner

variable {text : String} {find : UInt8 → UInt8 → List UInt8 → Option Nat} {d : Delimiter}
  {start : Nat} {value : String} {s : Scanner text} {u v : List Char} {c : Char}

/-- A turn at the mark ends the literal. -/
theorem turn_mark {i : Nat} (h : s.cursor.rest = d.mark :: v) :
    d.turn value i s = .over (.ok (value, s.moved 1)) := by
  rw [turn, next?_eq h]
  exact if_pos rfl

/-- A turn at a backslash that ends the text fails. -/
theorem turn_lone {i : Nat} (hmark : '\\' ≠ d.mark) (h : s.cursor.rest = ['\\']) :
    d.turn value i s = .over (.error (.loneEscape i)) := by
  have hend := next?_eq_none (congrArg Cursor.rest (cursor_moved_one h))
  rw [turn, next?_eq h]
  simp only [if_neg hmark, hend]

/-- A turn at an escape adds what it stands for. -/
theorem turn_escape {e : Char} {i : Nat} (hmark : '\\' ≠ d.mark)
    (h : s.cursor.rest = '\\' :: e :: v) :
    d.turn value i s =
      match d.escape e i with
      | .error f => .over (.error f)
      | .ok cs => .again (value ++ .ofList cs) (s.moved 2) := by
  have hnext := next?_eq (congrArg Cursor.rest (cursor_moved_one h))
  rw [turn, next?_eq h]
  simp only [if_neg hmark, hnext]
  rfl

/-- What lies ahead of a scanner that has scanned `value`, character by character. -/
def outlook (d : Delimiter) (start : Nat) (value : String) (s : Scanner text) : Reading String :=
  (d.readRest start s.cursor.rest s.byteIndex).map fun cs => value ++ .ofList cs

/-- What lies ahead after a round. -/
def outlookAfter (d : Delimiter) (start : Nat) : Round text → Reading String
  | .again value s => d.outlook start value s
  | .over r => seen r

/-- Taking over what is read as it is keeps what lies ahead. -/
theorem outlook_moved (h : s.cursor.rest = u ++ v) (hu : ∀ c ∈ u, d.Plain c) :
    d.outlook start (value ++ .ofList u) (s.moved u.length) = d.outlook start value s := by
  rw [outlook, outlook, byteIndex_moved h, cursor_moved h, h, readRest_append hu,
    Reading.map_append_ofList]

/-- At a mark or a backslash a round keeps what lies ahead. -/
theorem turn_outlook (h : s.cursor.rest = c :: v) (hc : c = d.mark ∨ c = '\\') :
    d.outlookAfter start (d.turn value s.byteIndex s) = d.outlook start value s := by
  by_cases hmark : c = d.mark
  · subst hmark
    rw [turn_mark h, outlook, h, readRest_mark, ← cursor_moved_one h]
    show Except.ok (value, (s.moved 1).cursor) = Except.ok (value ++ "", (s.moved 1).cursor)
    rw [String.append_empty]
  · obtain rfl := hc.resolve_left hmark
    cases v with
    | nil =>
      rw [turn_lone hmark h, outlook, h, readRest_lone hmark]
      rfl
    | cons e w =>
      rw [turn_escape hmark h, outlook, h, readRest_escape hmark]
      cases d.escape e s.byteIndex with
      | error f => rfl
      | ok cs =>
        have hmoved : (s.moved 2).cursor = ⟨w, s.byteIndex + byteLength ['\\', e]⟩ :=
          cursor_moved (u := ['\\', e]) h
        have hindex : (s.moved 2).byteIndex = s.byteIndex + byteLength ['\\', e] :=
          congrArg Cursor.index hmoved
        show outlook d start (value ++ .ofList cs) (s.moved 2) = _
        rw [Reading.map_append_ofList, outlook, hmoved, hindex]

/-- The first place where a condition holds, and what is before it. -/
theorem exists_of_findIdx? {α : Type} {p : α → Bool} {xs : List α} {n : Nat}
    (h : xs.findIdx? p = some n) :
    ∃ x ys, xs = xs.take n ++ x :: ys ∧ p x = true ∧ ∀ y ∈ xs.take n, p y = false := by
  obtain ⟨hn, hp, hbefore⟩ := List.findIdx?_eq_some_iff_getElem.mp h
  refine ⟨xs[n], xs.drop (n + 1), ?_, hp, fun y hy => ?_⟩
  · rw [List.getElem_cons_drop, List.take_append_drop]
  · obtain ⟨k, hk, rfl⟩ := List.mem_take_iff_getElem.mp hy
    simpa using hbefore k (by omega)

/-- A round has a result, and keeps what lies ahead. -/
theorem round_outlook (hfind : FindsEither find) (d : Delimiter) (start : Nat) (value : String)
    (s : Scanner text) :
    (d.round find start value s).map (d.outlookAfter start) = some (d.outlook start value s) := by
  have hplain : ∀ c, (c == d.mark || c == '\\') = false ↔ d.Plain c := by
    intro c
    rw [Bool.or_eq_false_iff, beq_eq_false_iff_ne, beq_eq_false_iff_ne, Plain]
  rw [round, bytesFrom?_byteIndex]
  dsimp only
  -- The bytes are searched as the characters would be.
  rw [hfind, findIdx?_utf8 d.ascii (by decide)]
  cases hidx : s.cursor.rest.findIdx? fun c => c == d.mark || c == '\\' with
  | none =>
    rw [List.findIdx?_eq_none_iff] at hidx
    have hu : ∀ c ∈ s.cursor.rest, d.Plain c := fun c hc => (hplain c).mp (hidx c hc)
    rw [outlook, ← List.append_nil s.cursor.rest, readRest_append hu]
    rfl
  | some n =>
    -- The part up to the character that was found is taken over, then there is a turn.
    obtain ⟨c, v, hrest, hc, hu⟩ := exists_of_findIdx? hidx
    have hu : ∀ c ∈ s.cursor.rest.take n, d.Plain c := fun c hc => (hplain c).mp (hu c hc)
    have hmoved := cursor_moved hrest
    simp only [Option.map_some, part?_byteIndex hrest, seek_eq hrest]
    rw [← byteIndex_moved hrest, turn_outlook (congrArg Cursor.rest hmoved) (by simpa using hc),
      outlook_moved hrest hu]

/-- Scanning comes to what lies ahead at its start. -/
theorem loop_outlook (hfind : FindsEither find) (d : Delimiter) (start : Nat) (value : String)
    (s : Scanner text) :
    (d.loop find start value s).map seen = some (d.outlook start value s) := by
  fun_induction loop find d start value s with
  | case1 value s hround =>
    have hstep := round_outlook hfind d start value s
    rw [hround] at hstep
    cases hstep
  | case2 value s r hround =>
    have hstep := round_outlook hfind d start value s
    rw [hround] at hstep
    exact hstep
  | case3 value s value' s' hround ih =>
    have hstep := round_outlook hfind d start value s
    rw [hround] at hstep
    exact ih.trans hstep

/-- So a delimited literal is read as it is character by character. -/
theorem seen_read? (hfind : FindsEither find) (h : s.cursor.rest = d.mark :: v) :
    (d.read? find s).map seen =
      some ((d.readRest s.byteIndex v (s.byteIndex + d.mark.utf8Size)).map String.ofList) := by
  have hpeek : s.peek = some d.mark := by
    rw [peek_eq_head?, h]
    rfl
  have hmoved := cursor_moved_one h
  have hindex : (s.moved 1).byteIndex = s.byteIndex + d.mark.utf8Size :=
    congrArg Cursor.index hmoved
  rw [read?, expect?, if_pos hpeek, Option.bind_some, loop_outlook hfind, outlook, hindex, hmoved,
    Reading.map_empty_append]
  rfl

end Delimiter

/-! ## Words and flags -/

namespace Scanner

variable {text : String} {find : UInt8 → UInt8 → List UInt8 → Option Nat} {s : Scanner text}
  {c : Char}

theorem rest_eq_nil (h : s.peek = none) : s.cursor.rest = [] := by
  rwa [peek_eq_head?, List.head?_eq_none_iff] at h

theorem exists_rest_eq (h : s.peek = some c) : ∃ v, s.cursor.rest = c :: v := by
  rwa [peek_eq_head?, List.head?_eq_some_iff] at h

theorem cursor_eq {v : List Char} (h : s.cursor.rest = v) : s.cursor = ⟨v, s.byteIndex⟩ :=
  congrArg (Cursor.mk · s.byteIndex) h

/-- Dropping characters is dropping them of the cursor. -/
theorem cursor_dropWhile (p : Char → Bool) (s : Scanner text) :
    (s.dropWhile p).cursor = s.cursor.dropWhile p := by
  fun_induction dropWhile p s with
  | case1 s hpeek =>
    rw [cursor_eq (rest_eq_nil hpeek)]
    rfl
  | case2 s c hpeek hc ih =>
    obtain ⟨v, hrest⟩ := exists_rest_eq hpeek
    rw [ih, cursor_moved_one hrest, cursor_eq hrest, Cursor.dropWhile, Cursor.dropWhile]
    simp only [Cursor.past, List.dropWhile_cons_of_pos hc, List.takeWhile_cons_of_pos hc,
      byteLength_cons, Nat.add_assoc]
  | case3 s c hpeek hc =>
    obtain ⟨v, hrest⟩ := exists_rest_eq hpeek
    rw [cursor_eq hrest, Cursor.dropWhile]
    simp only [List.dropWhile_cons_of_neg hc, List.takeWhile_cons_of_neg hc, byteLength_nil,
      Nat.add_zero]

/-- Words are scanned as they are read. -/
theorem seen_takeWhile? (p : Char → Bool) (s : Scanner text) :
    (s.takeWhile? p).map (Prod.map id cursor) =
      some (.ofList (s.cursor.takeWhile p), s.cursor.dropWhile p) := by
  have hindex : (s.dropWhile p).byteIndex = s.byteIndex + byteLength (s.cursor.takeWhile p) :=
    congrArg Cursor.index (cursor_dropWhile p s)
  have hrest : s.cursor.rest = s.cursor.takeWhile p ++ s.cursor.rest.dropWhile p :=
    List.takeWhile_append_dropWhile.symm
  rw [takeWhile?, hindex, part?_byteIndex hrest, ← cursor_dropWhile]
  rfl

/-- Flags are scanned as they are read after those before. -/
theorem seen_readFlags (flags : String) (s : Scanner text) :
    seen (s.readFlags flags) =
      (Pattern.readFlags flags.toList.reverse s.cursor.rest s.byteIndex).map
        fun cs => flags ++ .ofList cs := by
  fun_induction readFlags flags s with
  | case1 flags s hpeek =>
    have hrest := rest_eq_nil hpeek
    rw [hrest, Pattern.readFlags, ← cursor_eq hrest]
    show Except.ok (flags, s.cursor) = Except.ok (flags ++ "", s.cursor)
    rw [String.append_empty]
  | case2 flags s c hpeek halpha hflag ih =>
    obtain ⟨v, hrest⟩ := exists_rest_eq hpeek
    have hflag : c ∈ regexFlags ∧ c ∉ flags.toList.reverse := by rwa [List.mem_reverse]
    have hmoved := cursor_moved_one hrest
    have hindex : (s.moved 1).byteIndex = s.byteIndex + c.utf8Size := congrArg Cursor.index hmoved
    rw [ih, hmoved, hindex, hrest, Pattern.readFlags, if_pos halpha, if_pos hflag,
      Reading.map_map, String.toList_push, List.reverse_concat]
    refine congrArg (Reading.map · _) (funext fun cs => ?_)
    rw [Function.comp_apply, String.ofList_cons, String.push_eq_append, String.append_assoc]
  | case3 flags s c hpeek halpha hflag =>
    obtain ⟨v, hrest⟩ := exists_rest_eq hpeek
    have hflag : ¬ (c ∈ regexFlags ∧ c ∉ flags.toList.reverse) := by rwa [List.mem_reverse]
    rw [hrest, Pattern.readFlags, if_pos halpha, if_neg hflag]
    rfl
  | case4 flags s c hpeek halpha =>
    obtain ⟨v, hrest⟩ := exists_rest_eq hpeek
    rw [hrest, Pattern.readFlags, if_neg halpha, ← cursor_eq hrest]
    show Except.ok (flags, s.cursor) = Except.ok (flags ++ "", s.cursor)
    rw [String.append_empty]

/-! ## Whole literals -/

/-- A quoted text is read as it is character by character. -/
theorem seen_readText? (hfind : FindsEither find) {cs : List Char} {i : Nat}
    (h : s.cursor = ⟨'\'' :: cs, i⟩) :
    (s.readText? find).map seen = some ((readText i cs (i + 1)).map String.ofList) := by
  obtain ⟨hrest, rfl⟩ := Cursor.mk.inj h
  rw [readText?, Delimiter.seen_read? hfind (d := .quote) hrest, Delimiter.readRest_quote]
  rfl

/-- So is a regular expression, with its flags. -/
theorem seen_readRegex? (hfind : FindsEither find) {cs : List Char} {i : Nat}
    (h : s.cursor = ⟨'/' :: cs, i⟩) :
    (s.readRegex? find).map seen = some (readRegex i cs (i + 1)) := by
  obtain ⟨hrest, rfl⟩ := Cursor.mk.inj h
  have hsource := Delimiter.seen_read? hfind (d := .slash) hrest
  rw [Delimiter.readRest_slash] at hsource
  obtain ⟨r, hread, hseen⟩ := Option.map_eq_some_iff.mp hsource
  rw [readRegex?, readRegex, hread]
  change seen r = (readSource s.byteIndex cs (s.byteIndex + 1)).map String.ofList at hseen
  cases hsource : readSource s.byteIndex cs (s.byteIndex + 1) with
  | error f =>
    rw [hsource] at hseen
    obtain rfl := seen_eq_error hseen
    rfl
  | ok p =>
    obtain ⟨source, a⟩ := p
    rw [hsource] at hseen
    obtain ⟨t, rfl, rfl⟩ := seen_eq_ok hseen
    have hflags := seen_readFlags "" t
    rw [Reading.map_empty_append] at hflags
    simp only [Option.map_some, seen_map, hflags, Reading.map_map]
    rfl

/-- Scanners stand wherever reading may come to. -/
theorem exists_cursor_eq_iff {a : Cursor} :
    (∃ s : Scanner text, s.cursor = a) ↔ (Cursor.ofString text).Reaches a := by
  constructor
  · rintro ⟨s, rfl⟩
    refine ⟨text.toList.take s.place, toList_eq rfl, ?_⟩
    rw [Cursor.ofString, Nat.zero_add]
    exact s.byteIndex_eq
  · rintro ⟨used, hused, hindex⟩
    have hrest : (atStart text).cursor.rest = used ++ a.rest := hused
    refine ⟨(atStart text).moved used.length, ?_⟩
    rw [cursor_moved hrest, byteIndex_eq]
    exact congrArg (Cursor.mk a.rest) hindex.symm

/-- A round of scanning is followed by finitely many others. -/
theorem wellFounded_round (find : UInt8 → UInt8 → List UInt8 → Option Nat) (text : String)
    (d : Delimiter) (start : Nat) :
    WellFounded fun a b : String × Scanner text =>
      d.round find start b.1 b.2 = some (.again a.1 a.2) :=
  Subrelation.wf (fun h => Delimiter.left_lt_of_round h)
    (measure fun a : String × Scanner text => a.2.left).wf

/-- **Literals are scanned as they are read.** Scanners stand wherever reading may come to. From
every quote and every slash on scanning has a result, so each part of the text that it takes lies
between boundaries of characters. The result is that of reading one character after the other: the
same text or expression and the same character to go on with, or the same fault, with which the
reading of a pattern ends. Rounds do not follow one another for ever. Words, too, are scanned as
they are read. -/
theorem seen_literals (hfind : FindsEither find) (text : String) :
    (∀ a, (∃ s : Scanner text, s.cursor = a) ↔ (Cursor.ofString text).Reaches a) ∧
    (∀ (d : Delimiter) (start : Nat), WellFounded fun a b : String × Scanner text =>
      d.round find start b.1 b.2 = some (.again a.1 a.2)) ∧
    ∀ s : Scanner text,
      (∀ cs i, s.cursor = ⟨'\'' :: cs, i⟩ →
        (s.readText? find).map seen = some ((readText i cs (i + 1)).map String.ofList)) ∧
      (∀ cs i, s.cursor = ⟨'/' :: cs, i⟩ →
        (s.readRegex? find).map seen = some (readRegex i cs (i + 1))) ∧
      ∀ p, (s.takeWhile? p).map (Prod.map id cursor) =
        some (.ofList (s.cursor.takeWhile p), s.cursor.dropWhile p) :=
  ⟨fun _ => exists_cursor_eq_iff, wellFounded_round find text, fun s =>
    ⟨fun _ _ => seen_readText? hfind, fun _ _ => seen_readRegex? hfind, s.seen_takeWhile?⟩⟩

/-- A text that has an escape between characters of two bytes and does not stand at the start. -/
theorem seen_literals_escape :
    let find (a b : UInt8) (bytes : List UInt8) : Option Nat :=
      bytes.findIdx? fun x => x == a || x == b
    let s := (atStart "é'ü\\nö'").moved 1
    FindsEither find ∧ s.cursor = ⟨['\'', 'ü', '\\', 'n', 'ö', '\''], 2⟩ ∧
      (s.readText? find).map seen = some (.ok ("ü\nö", ⟨[], 10⟩)) := by
  intro find s
  have hfind : FindsEither find := fun _ _ _ => rfl
  have hcursor : s.cursor = ⟨['\'', 'ü', '\\', 'n', 'ö', '\''], 2⟩ := by
    decide
  refine ⟨hfind, hcursor, ?_⟩
  exact ((seen_literals hfind _).2.2 s).1 _ _ hcursor

end Scanner

end Motif.Pattern
