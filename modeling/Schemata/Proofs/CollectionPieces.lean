import Schemata.Proofs.Providers
import Schemata.Proofs.CollectionText

/-!
Reading a collection: the pieces of its text, and the first piece that fails.

Stripping trims the text and removes the brackets of the format, both at once when both are
set; what is left is trimmed again. The body then falls into runs: `Runs cut cs runs` says that
`cs` is `runs` joined with one cutting character between each two, so every run is a maximal
stretch free of cutting characters. The pieces are the runs, trimmed, with the empty ones left
out. A collection parser reads the pieces in order with its element parser and fails with the
error of the first piece that fails, unchanged; when none fails it collects what was read.
-/

namespace Schemata

section Trimming

-- What `dropWhile` leaves starts with a character it does not drop, and ends where the text
-- ends.
theorem dropBlanks_head (cs : List Char) :
    ∀ c ∈ (dropBlanks cs).head?, Char.isBlank c = false := by
  induction cs with
  | nil => simp [dropBlanks]
  | cons c rest ih =>
    by_cases blank : Char.isBlank c = true
    · simpa [dropBlanks, blank] using ih
    · simp [dropBlanks, blank]

theorem dropBlanks_getLast? (cs : List Char) :
    ∀ c ∈ (dropBlanks cs).getLast?, cs.getLast? = some c := by
  induction cs with
  | nil => simp [dropBlanks]
  | cons c rest ih =>
    by_cases blank : Char.isBlank c = true
    · intro d last
      have inRest := ih d (by simpa [dropBlanks, blank] using last)
      cases rest with
      | nil => cases inRest
      | cons e more => simpa [List.getLast?_cons] using inRest
    · intro d last
      simpa [dropBlanks, blank] using last

theorem trimChars_ends (cs : List Char) :
    (∀ c ∈ (trimChars cs).head?, Char.isBlank c = false) ∧
      ∀ c ∈ (trimChars cs).getLast?, Char.isBlank c = false := by
  constructor
  · intro c first
    rw [trimChars, List.head?_reverse] at first
    have fromFront := dropBlanks_getLast? _ c first
    rw [List.getLast?_reverse] at fromFront
    exact dropBlanks_head cs c fromFront
  · intro c last
    rw [trimChars, List.getLast?_reverse] at last
    exact dropBlanks_head _ c last

theorem trimChars_trimChars (cs : List Char) : trimChars (trimChars cs) = trimChars cs :=
  trimChars_of_ends (trimChars_ends cs).1 (trimChars_ends cs).2

end Trimming

namespace CollectionFormat

theorem dropLeading_eq_some {mark : Char} {cs rest : List Char} :
    dropLeading mark cs = some rest ↔ cs = mark :: rest := by
  cases cs with
  | nil => simp [dropLeading]
  | cons c more =>
    by_cases same : c = mark
    · simp [dropLeading, same, eq_comm]
    · simp [dropLeading, same]

theorem dropTrailing_eq_some {mark : Char} {cs init : List Char} :
    dropTrailing mark cs = some init ↔ cs = init ++ [mark] := by
  rw [dropTrailing, Option.map_eq_some_iff]
  constructor
  · rintro ⟨rest, dropped, rfl⟩
    rw [← List.reverse_reverse cs, dropLeading_eq_some.mp dropped]
    simp
  · rintro rfl
    exact ⟨init.reverse, dropLeading_eq_some.mpr (by simp), List.reverse_reverse init⟩

variable {f : CollectionFormat} {cs : List Char}

-- Whatever the brackets, the body ends trimmed.
theorem stripChars_trimmed : trimChars (f.stripChars cs) = f.stripChars cs :=
  trimChars_trimChars _

/-- With both brackets set, they are removed only as a pair around the trimmed text. -/
theorem stripChars_pair {o c : Char} (opens : f.openMark = some o) (closes : f.closeMark = some c) :
    (∀ inner, trimChars cs = o :: (inner ++ [c]) → f.stripChars cs = trimChars inner) ∧
    ((∀ inner, trimChars cs ≠ o :: (inner ++ [c])) → f.stripChars cs = trimChars cs) := by
  constructor
  · intro inner enclosed
    have bracketed : (dropLeading o (trimChars cs)).bind (dropTrailing c) = some inner := by
      rw [enclosed, dropLeading_eq_some.mpr rfl]
      exact dropTrailing_eq_some.mpr rfl
    simp [stripChars, opens, closes, bracketed]
  · intro unpaired
    have bracketed : (dropLeading o (trimChars cs)).bind (dropTrailing c) = none := by
      rw [Option.bind_eq_none_iff]
      intro rest dropped
      cases trailing : dropTrailing c rest with
      | none => rfl
      | some inner =>
        exact absurd (by rw [dropLeading_eq_some.mp dropped, dropTrailing_eq_some.mp trailing])
          (unpaired inner)
    simp [stripChars, opens, closes, bracketed, trimChars_trimChars]

end CollectionFormat

/-- `runs` are the maximal runs of `cs` free of cutting characters: `cs` is the runs joined
with one cutting character between each two. -/
inductive Runs (cut : Char → Bool) : List Char → List (List Char) → Prop
  | last {run : List Char} : (∀ c ∈ run, cut c = false) → Runs cut run [run]
  | cons {run rest : List Char} {runs : List (List Char)} {c : Char} :
      (∀ d ∈ run, cut d = false) → cut c = true → Runs cut rest runs →
        Runs cut (run ++ c :: rest) (run :: runs)

section Runs

variable {cut : Char → Bool}

-- Cutting follows the text character by character; a character that does not cut joins the
-- first run of the rest.
theorem runs_cutWhere (cut : Char → Bool) : ∀ cs, Runs cut cs (cutWhere cut cs)
  | [] => .last nofun
  | c :: rest => by
    have later := runs_cutWhere cut rest
    have joins : ∀ {run : List Char}, cut c = false → (∀ d ∈ run, cut d = false) →
        ∀ d ∈ c :: run, cut d = false := by
      intro run kept uncut d member
      rcases List.mem_cons.mp member with rfl | inRun
      · exact kept
      · exact uncut d inRun
    by_cases cuts : cut c = true
    · rw [cutWhere, if_pos cuts]
      show Runs cut ([] ++ c :: rest) ([] :: cutWhere cut rest)
      exact .cons nofun cuts later
    · rw [cutWhere, if_neg cuts]
      have kept : cut c = false := by simpa using cuts
      generalize cutWhere cut rest = runs at later ⊢
      cases later with
      | last uncut => exact .last (joins kept uncut)
      | @cons run rest' runs c' uncut cutsNext tail =>
        show Runs cut ((c :: run) ++ c' :: rest') ((c :: run) :: runs)
        exact .cons (joins kept uncut) cutsNext tail

theorem Runs.eq_cutWhere {cs : List Char} {runs : List (List Char)} (split : Runs cut cs runs) :
    runs = cutWhere cut cs := by
  induction split with
  | last uncut => exact (cutWhere_of_uncut uncut).symm
  | cons uncut cuts _ ih => rw [cutWhere_append uncut cuts, ih]

end Runs

theorem CollectionFormat.split_toList (f : CollectionFormat) (body : String) :
    (f.split body).map String.toList = f.splitChars body.toList := by
  simp [CollectionFormat.split, Function.comp_def]

/-- The pieces of a body are its maximal runs free of separators, trimmed, the empty ones left
out. -/
theorem CollectionFormat.splitChars_runs {f : CollectionFormat} {cs : List Char}
    {runs : List (List Char)} (split : Runs f.separates cs runs) :
    f.splitChars cs = (runs.map trimChars).filter (!·.isEmpty) := by
  rw [split.eq_cutWhere]
  rfl

namespace Parser

variable {parse : Option String → Except ParseError Value}

theorem map_eq_error_iff {α β : Type} {g : α → β} {x : Except ParseError α}
    {e : ParseError} : x.map g = .error e ↔ x = .error e := by
  cases x <;> simp [Except.map]

theorem parseAll_cons_of_ok {p : String} {v : Value} (read : parse (some p) = .ok v)
    (rest : List String) : parseAll parse (p :: rest) = (parseAll parse rest).map (v :: ·) := by
  simp only [parseAll, read]
  cases parseAll parse rest <;> rfl

-- Reading stops at the first piece that fails and passes its error on.
theorem parseAll_eq_error_iff {e : ParseError} :
    ∀ pieces, parseAll parse pieces = .error e ↔
      ∃ before piece after, pieces = before ++ piece :: after ∧
        (∀ q ∈ before, ∃ v, parse (some q) = .ok v) ∧ parse (some piece) = .error e
  | [] => by simp [parseAll]
  | p :: rest => by
    have later := parseAll_eq_error_iff (e := e) rest
    simp only [List.cons_eq_append_iff]
    cases read : parse (some p) with
    | error first =>
      simp only [parseAll, read, Except.error.injEq]
      constructor
      · rintro rfl
        exact ⟨[], p, rest, .inl ⟨rfl, rfl⟩, fun _ member => (List.not_mem_nil member).elim, read⟩
      · rintro ⟨before, piece, after, ⟨rfl, same⟩ | ⟨more, rfl, _⟩, fine, failed⟩
        · cases same
          rw [read] at failed
          exact Except.error.inj failed
        · obtain ⟨v, ok⟩ := fine p List.mem_cons_self
          rw [read] at ok
          cases ok
    | ok v =>
      -- the first piece reads, so what fails, fails in the rest
      rw [parseAll_cons_of_ok read, map_eq_error_iff, later]
      constructor
      · rintro ⟨before, piece, after, rfl, fine, failed⟩
        refine ⟨p :: before, piece, after, .inr ⟨before, rfl, rfl⟩,
          fun q member => ?_, failed⟩
        rcases List.mem_cons.mp member with rfl | earlier
        · exact ⟨v, read⟩
        · exact fine q earlier
      · rintro ⟨before, piece, after, ⟨rfl, same⟩ | ⟨more, rfl, rfl⟩, fine, failed⟩
        · cases same
          rw [read] at failed
          cases failed
        · exact ⟨more, piece, after, rfl,
            fun q member => fine q (List.mem_cons_of_mem p member), failed⟩

theorem parseAll_eq_ok_iff {pieces : List String} {vs : List Value} :
    parseAll parse pieces = .ok vs ↔
      List.Forall₂ (fun q v => parse (some q) = .ok v) pieces vs := by
  induction pieces generalizing vs with
  | nil => cases vs <;> simp [parseAll]
  | cons p rest ih =>
    cases read : parse (some p) with
    | error e => cases vs <;> simp [parseAll, read]
    | ok v =>
      rw [parseAll_cons_of_ok read]
      cases vs with
      | nil => cases parseAll parse rest <;> simp [Except.map]
      | cons w ws =>
        rw [List.forall₂_cons, read, ← ih]
        cases parseAll parse rest <;> simp [Except.map]

section Collection

variable {shape : CollectionShape} {u : ValueType} {element : Parser} {f : CollectionFormat}

-- An element parser that keeps to the element type makes the collection's own check pass.
theorem collection_parse_some (typed : ∀ s v, element.parse (some s) = .ok v → v.type = u)
    (text : String) :
    (Parser.collection (.collection shape u) element f).parse (some text) =
      (parseAll element.parse (f.split (f.strip text))).map (Value.collect shape u) :=
  parse_eq_parseUnchecked (x := .collection (.collection shape u) element f)
    ⟨shape, u, rfl, typed⟩ (some text)

theorem strip_toList (text : String) : (f.strip text).toList = f.stripChars text.toList :=
  String.toList_ofList

/-- Reading a collection: the body is the trimmed text with its brackets removed only as a
pair, the pieces are the trimmed runs of the body between separators, and the collection is
read piece by piece, failing with the error of the first piece that fails. -/
theorem collection_reads_pieces_in_order (shape : CollectionShape) (u : ValueType)
    (element : Parser) (f : CollectionFormat) (text : String)
    (typed : ∀ s v, element.parse (some s) = .ok v → v.type = u) :
    let body := (f.strip text).toList
    let pieces := f.split (f.strip text)
    let x := Parser.collection (.collection shape u) element f
    (trimChars body = body ∧
      ∀ o c, f.openMark = some o → f.closeMark = some c →
        (∀ inner, trimChars text.toList = o :: (inner ++ [c]) → body = trimChars inner) ∧
        ((∀ inner, trimChars text.toList ≠ o :: (inner ++ [c])) →
          body = trimChars text.toList)) ∧
    ((∃ runs, Runs f.separates body runs) ∧ ∀ runs, Runs f.separates body runs →
      pieces.map String.toList = (runs.map trimChars).filter (!·.isEmpty)) ∧
    (∀ e, x.parse (some text) = .error e ↔
      ∃ before piece after, pieces = before ++ piece :: after ∧
        (∀ q ∈ before, ∃ v, element.parse (some q) = .ok v) ∧
        element.parse (some piece) = .error e) ∧
    (∀ w, x.parse (some text) = .ok w ↔
      ∃ vs, List.Forall₂ (fun q v => element.parse (some q) = .ok v) pieces vs ∧
        w = Value.collect shape u vs) ∧
    x.parse none = .error (.null (ValueType.collection shape u).shortName) := by
  dsimp only
  have reads : (Parser.collection (.collection shape u) element f).parse (some text) = _ :=
    collection_parse_some typed text
  refine ⟨⟨?trimmed, fun o c opens closes => ?paired⟩, ⟨?cut, fun runs split => ?pieces⟩,
    fun e => ?failure, fun w => ?success, rfl⟩
  case trimmed =>
    rw [strip_toList]
    exact CollectionFormat.stripChars_trimmed
  case paired =>
    rw [strip_toList]
    exact CollectionFormat.stripChars_pair opens closes
  case cut => exact ⟨_, runs_cutWhere f.separates _⟩
  case pieces => rw [CollectionFormat.split_toList, CollectionFormat.splitChars_runs split]
  case failure =>
    rw [reads, map_eq_error_iff, parseAll_eq_error_iff]
  case success =>
    rw [reads]
    generalize f.split (f.strip text) = pieces
    cases read : parseAll element.parse pieces with
    | error e =>
      simp only [Except.map, reduceCtorEq, false_iff, not_exists, not_and]
      intro vs allRead
      rw [parseAll_eq_ok_iff.mpr allRead] at read
      cases read
    | ok vs =>
      simp only [Except.map, Except.ok.injEq]
      constructor
      · rintro rfl
        exact ⟨vs, parseAll_eq_ok_iff.mp read, rfl⟩
      · rintro ⟨ws, allRead, rfl⟩
        rw [parseAll_eq_ok_iff.mpr allRead] at read
        cases read
        rfl

/-- The second piece of `[1, x, y]` is the first that is not a number; it is the one reported. -/
theorem first_unreadable_element_reported :
    (Parser.collection (.collection .vec (.int .i32)) (.standard (.int .i32)) {}).parse
      (some "[1, x, y]") = .error (.invalid "x" "i32") :=
  ((collection_reads_pieces_in_order .vec (.int .i32) (.standard (.int .i32)) {} "[1, x, y]"
      fun s v => standard_yieldsOwnType (.int .i32) (some s) v).2.2.1 _).mpr
    ⟨["1"], "x", ["y"], by decide,
      by simp only [List.mem_singleton, forall_eq]; exact ⟨_, rfl⟩, rfl⟩

end Collection

end Parser

end Schemata
