import Schemata.Proofs.FloatText
import Schemata.Rules.Parser

/-!
Written collections split back into the texts of their elements.

A collection is written as the texts of its elements joined by `, ` between brackets. When each
of those texts is a piece (not empty, and free of blanks and commas), stripping the brackets and
splitting at the separators gives the texts back. Numbers are written as pieces, and no number
and no bracketed text spells `null`.
-/

namespace Schemata

/-- Text that can stand as one element of a written collection: not empty, and free of the
characters that separate elements. -/
def Piece (cs : List Char) : Prop :=
  cs ≠ [] ∧ ∀ c ∈ cs, c ≠ ',' ∧ Char.isBlank c = false

-- The check as a boolean, for written texts: deciding the quantified form directly would run
-- through every character.
theorem Piece.of_all {cs : List Char} (nonempty : cs ≠ [])
    (checked : cs.all (fun c => c != ',' && !Char.isBlank c) = true) : Piece cs := by
  refine ⟨nonempty, fun c member => ?_⟩
  have holds := List.all_eq_true.mp checked c member
  simpa using holds

section Trimming

theorem dropBlanks_of_head {cs : List Char} (first : ∀ c ∈ cs.head?, Char.isBlank c = false) :
    dropBlanks cs = cs := by
  cases cs with
  | nil => rfl
  | cons c rest =>
    have kept : Char.isBlank c = false := first c rfl
    simp [dropBlanks, kept]

theorem trimChars_of_ends {cs : List Char} (first : ∀ c ∈ cs.head?, Char.isBlank c = false)
    (last : ∀ c ∈ cs.getLast?, Char.isBlank c = false) : trimChars cs = cs := by
  have reversed : ∀ c ∈ cs.reverse.head?, Char.isBlank c = false := by
    rw [List.head?_reverse]
    exact last
  rw [trimChars, dropBlanks_of_head first, dropBlanks_of_head reversed, List.reverse_reverse]

theorem Piece.trimChars {p : List Char} (piece : Piece p) : trimChars p = p :=
  trimChars_of_ends (fun c member => (piece.2 c (List.mem_of_mem_head? member)).2)
    (fun c member => (piece.2 c (List.mem_of_mem_getLast? member)).2)

theorem Piece.uncut {p : List Char} (piece : Piece p) :
    ∀ c ∈ p, ({} : CollectionFormat).separates c = false := by
  intro c member
  obtain ⟨notComma, notBlank⟩ := piece.2 c member
  simp [CollectionFormat.separates, notComma, notBlank]

end Trimming

section Cutting

variable {cut : Char → Bool}

theorem cutWhere_of_uncut {cs : List Char} (uncut : ∀ c ∈ cs, cut c = false) :
    cutWhere cut cs = [cs] := by
  induction cs with
  | nil => rfl
  | cons c rest ih =>
    have kept : cut c = false := uncut c List.mem_cons_self
    rw [cutWhere, if_neg (by simp [kept]),
      ih fun d member => uncut d (List.mem_cons_of_mem c member)]

theorem cutWhere_append {p : List Char} (uncut : ∀ c ∈ p, cut c = false) {c : Char}
    (cuts : cut c = true) (tail : List Char) :
    cutWhere cut (p ++ c :: tail) = p :: cutWhere cut tail := by
  induction p with
  | nil => simp [cutWhere, cuts]
  | cons d rest ih =>
    have kept : cut d = false := uncut d List.mem_cons_self
    rw [List.cons_append, cutWhere, if_neg (by simp [kept]),
      ih fun e member => uncut e (List.mem_cons_of_mem d member)]

end Cutting

section Joining

/-- The separator a collection writes between its elements. -/
def elementSeparator : List Char := [',', ' ']

variable {ps : List (List Char)}

-- The first and the last character of pieces joined together are those of a piece.
theorem head?_intercalate (started : ∀ p ∈ ps, p ≠ []) :
    ∀ c ∈ (elementSeparator.intercalate ps).head?, ∃ p ∈ ps, c ∈ p := by
  intro c member
  match ps, started with
  | [], _ => cases member
  | [p], _ =>
    rw [List.intercalate_singleton] at member
    exact ⟨p, List.mem_singleton_self p, List.mem_of_mem_head? member⟩
  | p :: q :: more, started =>
    rw [List.intercalate_cons_cons, List.append_assoc,
      List.head?_append_of_ne_nil _ (started p List.mem_cons_self)] at member
    exact ⟨p, List.mem_cons_self, List.mem_of_mem_head? member⟩

theorem intercalate_ne_nil {p : List Char} (started : p ≠ []) (more : List (List Char)) :
    elementSeparator.intercalate (p :: more) ≠ [] := by
  cases more with
  | nil => rwa [List.intercalate_singleton]
  | cons q rest =>
    rw [List.intercalate_cons_cons, List.append_assoc]
    exact List.append_ne_nil_of_left_ne_nil started _

theorem getLast?_intercalate (started : ∀ p ∈ ps, p ≠ []) :
    ∀ c ∈ (elementSeparator.intercalate ps).getLast?, ∃ p ∈ ps, c ∈ p := by
  -- on the pieces: the last character is that of the pieces after the first
  induction ps with
  | nil => nofun
  | cons p rest ih =>
    intro c member
    cases rest with
    | nil =>
      rw [List.intercalate_singleton] at member
      exact ⟨p, List.mem_singleton_self p, List.mem_of_mem_getLast? member⟩
    | cons q more =>
      have later := ih fun r inRest => started r (List.mem_cons_of_mem p inRest)
      rw [List.intercalate_cons_cons, List.getLast?_append] at member
      cases last : (elementSeparator.intercalate (q :: more)).getLast? with
      | none =>
        have started' : q ≠ [] := started q (List.mem_cons_of_mem p List.mem_cons_self)
        exact absurd (List.getLast?_eq_none_iff.mp last) (intercalate_ne_nil started' more)
      | some e =>
        rw [last, Option.some_or] at member
        obtain ⟨r, inRest, inR⟩ := later c (last ▸ member)
        exact ⟨r, List.mem_cons_of_mem p inRest, inR⟩

theorem splitChars_intercalate (pieces : ∀ p ∈ ps, Piece p) :
    ({} : CollectionFormat).splitChars (elementSeparator.intercalate ps) = ps := by
  -- on the pieces: the comma ends the first piece, and the blank after it leaves an empty one
  induction ps with
  | nil => rfl
  | cons p rest ih =>
    have piece := pieces p List.mem_cons_self
    have later := ih fun r inRest => pieces r (List.mem_cons_of_mem p inRest)
    cases rest with
    | nil =>
      simp [CollectionFormat.splitChars, cutWhere_of_uncut piece.uncut, piece.trimChars, piece.1]
    | cons q more =>
      have comma : ({} : CollectionFormat).separates ',' = true := by decide
      have blank : ({} : CollectionFormat).separates ' ' = true := by decide
      have joined : elementSeparator.intercalate (p :: q :: more) =
          p ++ ',' :: ' ' :: elementSeparator.intercalate (q :: more) := by
        rw [List.intercalate_cons_cons]
        simp [elementSeparator]
      have empty : trimChars [] = [] := rfl
      unfold CollectionFormat.splitChars at later ⊢
      rw [joined, cutWhere_append piece.uncut comma, cutWhere, if_pos blank, List.map_cons,
        List.map_cons, piece.trimChars, empty]
      simp [piece.1, later]

/-- Stripping the brackets around pieces joined by the separator gives the joined pieces. -/
theorem stripChars_bracketed (pieces : ∀ p ∈ ps, Piece p) :
    ({} : CollectionFormat).stripChars ('[' :: (elementSeparator.intercalate ps ++ [']'])) =
      elementSeparator.intercalate ps := by
  have started : ∀ p ∈ ps, p ≠ [] := fun p member => (pieces p member).1
  have inPiece : ∀ c, (∃ p ∈ ps, c ∈ p) → Char.isBlank c = false := by
    rintro c ⟨p, member, inP⟩
    exact ((pieces p member).2 c inP).2
  have body : trimChars (elementSeparator.intercalate ps) = elementSeparator.intercalate ps :=
    trimChars_of_ends (fun c member => inPiece c (head?_intercalate started c member))
      (fun c member => inPiece c (getLast?_intercalate started c member))
  have closing : ('[' :: (elementSeparator.intercalate ps ++ [']'])).getLast? = some ']' := by
    rw [← List.cons_append, List.getLast?_append]
    rfl
  have whole : trimChars ('[' :: (elementSeparator.intercalate ps ++ [']'])) =
      '[' :: (elementSeparator.intercalate ps ++ [']']) := by
    refine trimChars_of_ends (fun c member => ?_) (fun c member => ?_)
    · cases member
      decide
    · rw [closing] at member
      cases member
      decide
  unfold CollectionFormat.stripChars
  rw [whole]
  simp [CollectionFormat.dropLeading, CollectionFormat.dropTrailing, body]

end Joining

section Numerals

/-- Whether a character can stand in a written number: a digit, a sign, the point, the
exponent mark, or a letter of `inf` and `NaN`. -/
def Char.isNumeral (c : Char) : Bool := c.isDigit || "+-.eNainf".toList.contains c

set_option maxRecDepth 4000 in
theorem lowercaseRuns_start : ∀ r ∈ lowercaseRuns, 0x41 ≤ r.start := by
  simpa using List.all_eq_true.mp (by decide : lowercaseRuns.all (fun r => 0x41 ≤ r.start) = true)

-- No run of the lowercase mapping starts below the capital letters.
theorem lowercase_of_lt {c : Char} (small : c.toNat < 0x41) : Char.lowercase c = [c] := by
  have beyond := lowercaseRuns_start
  unfold Char.lowercase
  rw [if_neg (by omega), List.find?_eq_none.mpr]
  intro r member
  have late := beyond r member
  simp only [CaseRun.holds, Bool.and_eq_true, decide_eq_true_eq, not_and]
  omega

theorem numeral_char {c : Char} (numeral : Char.isNumeral c = true) :
    c ≠ ',' ∧ Char.isBlank c = false ∧ 'u' ∉ Char.lowercase c := by
  have others : ∀ d ∈ "+-.eNainf".toList,
      d ≠ ',' ∧ Char.isBlank d = false ∧ 'u' ∉ Char.lowercase d := by
    intro d member
    have text : "+-.eNainf".toList = ['+', '-', '.', 'e', 'N', 'a', 'i', 'n', 'f'] := by decide
    simp only [text, List.mem_cons, List.not_mem_nil, or_false] at member
    rcases member with rfl | rfl | rfl | rfl | rfl | rfl | rfl | rfl | rfl <;> decide
  rcases Bool.or_eq_true_iff.mp numeral with digit | other
  · have bounds := Char.isDigit_iff_toNat.mp digit
    have zero : '0'.toNat = 48 := rfl
    have nine : '9'.toNat = 57 := rfl
    rw [zero, nine] at bounds
    refine ⟨?_, ?_, ?_⟩
    · rintro rfl
      simp at bounds
    · simp only [Char.isBlank, blankRanges, List.any_cons, List.any_nil]
      simp
      omega
    · rw [lowercase_of_lt (by omega), List.mem_singleton]
      rintro rfl
      simp at bounds
  · exact others c (List.contains_iff_mem.mp other)

theorem digits_numeral (n : ℕ) : ∀ c ∈ Nat.toDigits 10 n, Char.isNumeral c = true := by
  intro c member
  simp [Char.isNumeral, isDigit_of_mem_toDigits member]

theorem toString_numeral (k : ℤ) : ∀ c ∈ (toString k).toList, Char.isNumeral c = true := by
  rw [Int.toString_eq_repr, Int.repr_eq_if]
  split
  · rw [Nat.toList_repr]
    exact digits_numeral _
  · rw [String.toList_append, List.forall_mem_append, Nat.toList_repr]
    exact ⟨List.all_eq_true.mp (by decide), digits_numeral _⟩

theorem zeros_numeral (k : ℕ) :
    ∀ c ∈ (FloatLayout.zeros k).toList, Char.isNumeral c = true := by
  intro c member
  rw [FloatLayout.zeros_toList] at member
  rw [List.eq_of_mem_replicate member]
  rfl

theorem positional_numeral (d : Decimal) :
    ∀ c ∈ (FloatLayout.value.positional d).toList, Char.isNumeral c = true := by
  have digits := digits_numeral d.digits
  unfold FloatLayout.positional
  split
  · simp only [String.toList_append, List.forall_mem_append, Decimal.digitText_toList]
    exact ⟨⟨digits, zeros_numeral _⟩, List.all_eq_true.mp (by decide)⟩
  · dsimp only
    split
    · simp only [String.toList_append, List.forall_mem_append, Decimal.digitText_toList,
        String.toList_ofList]
      exact ⟨⟨fun c member => digits c (List.mem_of_mem_take member),
        List.all_eq_true.mp (by decide)⟩,
        fun c member => digits c (List.mem_of_mem_drop member)⟩
    · simp only [String.toList_append, List.forall_mem_append, Decimal.digitText_toList]
      exact ⟨⟨List.all_eq_true.mp (by decide), zeros_numeral _⟩, digits⟩

theorem scientific_numeral (d : Decimal) :
    ∀ c ∈ (FloatLayout.value.scientific d).toList, Char.isNumeral c = true := by
  have digits := digits_numeral d.digits
  rw [← Decimal.digitText_toList] at digits
  unfold FloatLayout.scientific
  split
  · exact List.all_eq_true.mp (by decide)
  · rename_i first rest shape
    rw [shape] at digits
    simp only [String.toList_append, List.forall_mem_append, FloatLayout.exponentText_value]
    refine ⟨⟨⟨?_, ?_⟩, List.all_eq_true.mp (by decide)⟩, toString_numeral _⟩
    · simpa using digits first List.mem_cons_self
    · split
      · simp
      · simp only [String.toList_append, List.forall_mem_append, String.toList_ofList]
        exact ⟨List.all_eq_true.mp (by decide),
          fun c member => digits c (List.mem_cons_of_mem first member)⟩

theorem render_numeral {fmt : BinaryFormat} (x : BinaryFloat fmt) :
    ∀ c ∈ (FloatLayout.value.render x).toList, Char.isNumeral c = true := by
  have sign : ∀ negative : Bool,
      ∀ c ∈ (if negative then "-" else "").toList, Char.isNumeral c = true := by
    intro negative
    cases negative <;> exact List.all_eq_true.mp (by decide)
  unfold FloatLayout.render
  cases x.classify with
  | nan =>
    dsimp only
    exact List.all_eq_true.mp (by decide)
  | infinite negative =>
    dsimp only
    cases negative <;> exact List.all_eq_true.mp (by decide)
  | finite negative m e =>
    dsimp only
    split
    · rw [String.toList_append, List.forall_mem_append]
      exact ⟨sign negative, List.all_eq_true.mp (by decide)⟩
    · rw [String.toList_append, List.forall_mem_append]
      refine ⟨sign negative, ?_⟩
      split
      · exact positional_numeral _
      · exact scientific_numeral _

theorem ReadsAs.ne_nil {cs : List Char} {q : ℚ} (reads : ReadsAs cs q) : cs ≠ [] := by
  rintro rfl
  obtain ⟨n, read, -, -⟩ := reads
  simp [DecimalNumeral.read?] at read

theorem toString_ne_nil (k : ℤ) : (toString k).toList ≠ [] := by
  rw [Int.toString_eq_repr, Int.repr_eq_if]
  split
  · rw [Nat.toList_repr]
    exact Nat.toDigits_ne_nil
  · simp

theorem render_ne_nil {fmt : BinaryFormat} (x : BinaryFloat fmt) :
    (FloatLayout.value.render x).toList ≠ [] := by
  unfold FloatLayout.render
  cases x.classify with
  | nan => simp
  | infinite negative => cases negative <;> simp
  | finite negative m e =>
    dsimp only
    split
    · simp [FloatLayout.value]
    · rw [String.toList_append]
      refine List.append_ne_nil_of_right_ne_nil _ ?_
      split
      · exact (FloatLayout.positional_reads _).ne_nil
      · exact (FloatLayout.scientific_reads _).ne_nil

end Numerals

section Null

theorem null_lowercase : "null".toList.flatMap Char.lowercase = ['n', 'u', 'l', 'l'] := by
  decide

/-- A text written with the characters of numbers is no spelling of `null`: none of them
lowers to `u`. -/
theorem equalIgnoringCase_null_of_numeral {s : String}
    (numeral : ∀ c ∈ s.toList, Char.isNumeral c = true) :
    equalIgnoringCase s "null" = false := by
  unfold equalIgnoringCase
  rw [null_lowercase, beq_eq_false_iff_ne]
  intro same
  have lowered : 'u' ∈ s.toList.flatMap Char.lowercase := by
    rw [same]
    decide
  obtain ⟨c, member, hasU⟩ := List.mem_flatMap.mp lowered
  exact (numeral_char (numeral c member)).2.2 hasU

theorem equalIgnoringCase_null_of_head {s : String} {c : Char} {rest : List Char}
    (shape : s.toList = c :: rest) (own : Char.lowercase c = [c]) (other : c ≠ 'n') :
    equalIgnoringCase s "null" = false := by
  unfold equalIgnoringCase
  rw [null_lowercase, beq_eq_false_iff_ne, shape, List.flatMap_cons, own]
  intro same
  exact other (List.cons.inj same).1

theorem numeral_piece {s : String} (nonempty : s.toList ≠ [])
    (numeral : ∀ c ∈ s.toList, Char.isNumeral c = true) :
    Piece s.toList ∧ equalIgnoringCase s "null" = false := by
  refine ⟨⟨nonempty, fun c member => ?_⟩, equalIgnoringCase_null_of_numeral numeral⟩
  obtain ⟨notComma, notBlank, -⟩ := numeral_char (numeral c member)
  exact ⟨notComma, notBlank⟩

theorem isNullText_eq_false {s : String} (trimmed : trimChars s.toList = s.toList)
    (nonempty : s.toList ≠ []) (named : equalIgnoringCase s "null" = false) :
    isNullText (some s) = false := by
  have same : trimBlanks s = s := by
    rw [trimBlanks, trimmed, String.ofList_toList]
  have filled : s.isEmpty = false := by
    rw [String.isEmpty_eq_false_iff]
    rintro rfl
    exact nonempty rfl
  simp [isNullText, same, filled, named]

theorem Piece.isNullText {s : String} (piece : Piece s.toList)
    (named : equalIgnoringCase s "null" = false) : isNullText (some s) = false :=
  isNullText_eq_false piece.trimChars piece.1 named

theorem isNullText_bracketed {s : String} {body : List Char}
    (shape : s.toList = '[' :: (body ++ [']'])) : isNullText (some s) = false := by
  have closing : s.toList.getLast? = some ']' := by
    rw [shape, ← List.cons_append, List.getLast?_append]
    rfl
  have trimmed : trimChars s.toList = s.toList := by
    refine trimChars_of_ends (fun c member => ?_) (fun c member => ?_)
    · rw [shape] at member
      cases member
      decide
    · rw [closing] at member
      cases member
      decide
  refine isNullText_eq_false trimmed (by simp [shape]) ?_
  exact equalIgnoringCase_null_of_head shape (by decide) (by decide)

end Null

end Schemata
