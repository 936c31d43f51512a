import Schemata.Proofs.ValueTypes
import Schemata.Proofs.CollectionText
import Schemata.Proofs.Availability

/-!
Parsing undoes formatting.

Take a type built from truth values, integers, floats and enumerations whose names read back:
such a type, a nullable one, a collection of either, or a nullable such collection. The parser
that the standard rules with parser fallbacks find for the type reads the text of every value of
the type back as the value, each NaN as the quiet NaN. Each shape outside these has a value
that does not read back.

The names must be listed: an enumeration that lists no variants writes its one value as
`Nothing`, a name its parser does not know.
-/

namespace Schemata

/-- Variant names that read back as their own variant: at least one is listed, each is a piece
that spells no `null`, and no two are equal ignoring case. -/
structure EnumType.NamesReadBack (e : EnumType) : Prop where
  listed : e.variants ≠ []
  pieces : ∀ name ∈ e.variants, Piece name.toList
  notNull : ∀ name ∈ e.variants, equalIgnoringCase name "null" = false
  distinct : e.variants.Pairwise fun a b => equalIgnoringCase a b = false

namespace EnumType.NamesReadBack

variable {e : EnumType} (names : e.NamesReadBack)
include names

theorem valueNames_eq : e.valueNames = e.variants := by
  simp [EnumType.valueNames, names.listed]

theorem valueName_eq {index : ℕ} (small : index < e.variants.length) :
    e.valueName index = e.variants[index] := by
  rw [EnumType.valueName, names.valueNames_eq, List.getD_eq_getElem?_getD,
    List.getElem?_eq_getElem small, Option.getD_some]

theorem valueName_mem {index : ℕ} (small : index < e.valueNames.length) :
    e.valueName index ∈ e.variants := by
  rw [names.valueNames_eq] at small
  rw [names.valueName_eq small]
  exact List.getElem_mem small

/-- The name of a value finds the value: it equals its own variant ignoring case, and no
variant before it. -/
theorem readVariant_valueName {index : ℕ} (small : index < e.valueNames.length) :
    readVariant e (e.valueName index) = some (.enum e index) := by
  have trimmed : trimBlanks (e.valueName index) = e.valueName index := by
    rw [trimBlanks, (names.pieces _ (names.valueName_mem small)).trimChars, String.ofList_toList]
  rw [names.valueNames_eq] at small
  have named := names.valueName_eq small
  have first : e.variants.findIdx? (fun v => equalIgnoringCase v (e.valueName index)) =
      some index := by
    rw [List.findIdx?_eq_some_iff_getElem]
    refine ⟨small, by simp [named, equalIgnoringCase], fun j earlier => ?_⟩
    have apart := List.pairwise_iff_getElem.mp names.distinct j index (by omega) small earlier
    simp [named, apart]
  simp [readVariant, trimmed, first]

end EnumType.NamesReadBack

/-- A parser reads the text of every value of a type back as the value, each NaN as the quiet
NaN. -/
def Parser.UndoesFormat (x : Parser) (t : ValueType) : Prop :=
  ∀ v : Value, v.OfType t → x.parse (some v.format) = .ok v.quietNaNs

namespace Parser

theorem standard_bool_undoesFormat : (Parser.standard .bool).UndoesFormat .bool := by
  intro v typed
  cases typed with
  | bool b => cases b <;> rfl

theorem standard_int_undoesFormat (it : IntType) :
    (Parser.standard (.int it)).UndoesFormat (.int it) := by
  intro v typed
  cases typed with
  | @int _ n within =>
    -- only the signed types hold negative integers
    have sign : n < 0 → it.signed = true := by
      intro negative
      cases signed : it.signed
      · simp [IntType.contains, IntType.min, signed] at within
        omega
      · rfl
    have read : readInteger? it.signed (toString n) = some n := readInteger?_toString sign
    simp only [parse, readScalar, Value.format, read, Option.bind_some, within, ↓reduceIte]
    rfl

theorem standard_float_undoesFormat (ft : FloatType) :
    (Parser.standard (.float ft)).UndoesFormat (.float ft) := by
  intro v typed
  cases typed with
  | float32 hx =>
    simp [parse, readScalar, Value.format, Value.quietNaNs, BinaryFloat.quiet,
      BinaryFloat.read?_render BinaryFormat.binary32_withinReach hx]
  | float64 hx =>
    simp [parse, readScalar, Value.format, Value.quietNaNs, BinaryFloat.quiet,
      BinaryFloat.read?_render BinaryFormat.binary64_withinReach hx]

theorem enumeration_undoesFormat {e : EnumType} (names : e.NamesReadBack) :
    (Parser.enumeration (.enum e)).UndoesFormat (.enum e) := by
  intro v typed
  cases typed with
  | enum small =>
    simp [parse, innerType, ValueType.isNullable, ValueType.kind, Value.format,
      names.readVariant_valueName small, Value.quietNaNs]

theorem enumeration_nullable_undoesFormat {e : EnumType} (names : e.NamesReadBack) :
    (Parser.enumeration (.nullable (.enum e))).UndoesFormat (.nullable (.enum e)) := by
  intro v typed
  have null : isNullText (some "null") = true := by decide
  cases typed with
  | none => simp [parse, innerType, ValueType.isNullable, ValueType.kind, Value.format, null,
      Value.quietNaNs]
  | some held =>
    cases held with
    | enum small =>
      have listed := names.valueName_mem small
      have present := (names.pieces _ listed).isNullText (names.notNull _ listed)
      simp [parse, innerType, ValueType.isNullable, ValueType.kind, Value.format, present,
        names.readVariant_valueName small, Value.quietNaNs]

/-- A nullable parser undoes formatting when its inner parser does and no value of the inner
type is written as null text. -/
theorem nullable_undoesFormat {t : ValueType} {x : Parser} (inner : x.UndoesFormat t)
    (present : ∀ v : Value, v.OfType t → isNullText (some v.format) = false) :
    (Parser.nullable (.nullable t) x).UndoesFormat (.nullable t) := by
  intro v typed
  have null : isNullText (some "null") = true := by decide
  cases typed with
  | none => simp [parse, innerType, Value.format, null, Value.quietNaNs]
  | @some _ w held =>
    simp [parse, innerType, Value.format, present w held, inner w held, held.type_eq,
      Value.quietNaNs]

end Parser

theorem formatItems_toList : ∀ items : List Value,
    (Value.format.formatItems items).toList =
      elementSeparator.intercalate (items.map fun v => v.format.toList)
  | [] => rfl
  | [v] => by simp [Value.format.formatItems]
  | v :: w :: rest => by
    rw [Value.format.formatItems, String.toList_append, String.toList_append,
      formatItems_toList (w :: rest)]
    · simp [List.intercalate_cons_cons, elementSeparator]
    · exact List.cons_ne_nil w rest

theorem parseAll_map {parse : Option String → Except ParseError Value} {items : List Value}
    (reads : ∀ v ∈ items, parse (some v.format) = .ok v.quietNaNs) :
    Parser.parseAll parse (items.map Value.format) = .ok (items.map Value.quietNaNs) := by
  induction items with
  | nil => rfl
  | cons v rest ih =>
    have later := ih fun w member => reads w (List.mem_cons_of_mem v member)
    simp [Parser.parseAll, reads v List.mem_cons_self, later]

/-- Stripping and splitting the text of a collection whose elements are written as pieces gives
the texts of the elements. -/
theorem split_strip_format {items : List Value} (pieces : ∀ v ∈ items, Piece v.format.toList) :
    ({} : CollectionFormat).split
        (({} : CollectionFormat).strip ("[" ++ Value.format.formatItems items ++ "]")) =
      items.map Value.format := by
  have texts : ∀ p ∈ items.map (fun v => v.format.toList), Piece p := by
    simpa using pieces
  have shape : ("[" ++ Value.format.formatItems items ++ "]").toList =
      '[' :: (elementSeparator.intercalate (items.map fun v => v.format.toList) ++ [']']) := by
    simp [String.toList_append, formatItems_toList]
  rw [CollectionFormat.split, CollectionFormat.strip, String.toList_ofList, shape,
    stripChars_bracketed texts, splitChars_intercalate texts]
  simp

/-- What sorting asks of the values of an element type: the order goes one way and never
between equal values, and quieting NaNs keeps values in the type and in order. -/
structure SortsBack (t : ValueType) : Prop where
  asymm : ∀ a b : Value, a.OfType t → b.OfType t → a.precedes b = true →
    b.precedes a = false ∧ b.sameAs a = false
  quiet : ∀ v : Value, v.OfType t → v.quietNaNs.OfType t
  keepsOrder : ∀ a b : Value, a.OfType t → b.OfType t → a.precedes b = true →
    a.quietNaNs.precedes b.quietNaNs = true

/-- A collection parser undoes formatting when its element parser does, every element is
written as a piece, and sorting leaves increasing values as they are. -/
theorem Parser.collection_undoesFormat {shape : CollectionShape} {t : ValueType} {x : Parser}
    (element : x.UndoesFormat t) (pieces : ∀ v : Value, v.OfType t → Piece v.format.toList)
    (sorts : SortsBack t) :
    (Parser.collection (.collection shape t) x {}).UndoesFormat (.collection shape t) := by
  intro v typed
  cases typed with
  | @collection _ _ items members increasing =>
    have split := split_strip_format fun v member => pieces v (members v member)
    have read := parseAll_map fun v member => element v (members v member)
    have typesKept : (items.map Value.quietNaNs).all (·.type == t) = true := by
      simp only [List.all_map, List.all_eq_true]
      intro v member
      simp [(members v member).type_eq]
    have kept : Value.collect shape t (items.map Value.quietNaNs) =
        .collection shape t (items.map Value.quietNaNs) := by
      unfold Value.collect
      split
      · rename_i sorted
        -- the quiet elements are of the type and still increasing, so sorting keeps them
        have quietMembers : ∀ v ∈ items.map Value.quietNaNs, v.OfType t := by
          simp only [List.mem_map]
          rintro _ ⟨v, member, rfl⟩
          exact sorts.quiet v (members v member)
        have quietIncreasing :
            (items.map Value.quietNaNs).Pairwise fun a b => a.precedes b = true :=
          List.pairwise_map.mpr ((increasing sorted).imp_of_mem fun {a b} inA inB less =>
            sorts.keepsOrder a b (members a inA) (members b inB) less)
        rw [Value.sortedSet_of_increasing quietIncreasing fun a inA b inB less =>
          sorts.asymm a b (quietMembers a inA) (quietMembers b inB) less]
      · rfl
    simp [Parser.parse, Value.format, split, read, typesKept, kept, Value.quietNaNs]

/-- The scalar types whose values read back from their text: truth values, integers, floats,
and enumerations whose names read back. -/
inductive BaseReadsBack : ValueType → Prop where
  | bool : BaseReadsBack .bool
  | int (t : IntType) : BaseReadsBack (.int t)
  | float (t : FloatType) : BaseReadsBack (.float t)
  | enum {e : EnumType} : e.NamesReadBack → BaseReadsBack (.enum e)

namespace BaseReadsBack

variable {t : ValueType} (base : BaseReadsBack t)
include base

theorem text {v : Value} (typed : v.OfType t) :
    Piece v.format.toList ∧ equalIgnoringCase v.format "null" = false := by
  cases base with
  | bool =>
    cases typed with
    | bool b =>
      cases b <;> exact ⟨Piece.of_all (by decide) (by decide), by decide⟩
  | int it =>
    cases typed with
    | int _ => exact numeral_piece (toString_ne_nil _) (toString_numeral _)
  | float ft =>
    cases typed with
    | float32 _ => exact numeral_piece (render_ne_nil _) (render_numeral _)
    | float64 _ => exact numeral_piece (render_ne_nil _) (render_numeral _)
  | enum names =>
    cases typed with
    | enum small =>
      have listed := names.valueName_mem small
      exact ⟨names.pieces _ listed, names.notNull _ listed⟩

theorem asymm {a b : Value} (typedA : a.OfType t) (typedB : b.OfType t)
    (less : a.precedes b = true) : b.precedes a = false ∧ b.sameAs a = false := by
  cases base with
  | bool =>
    cases typedA with
    | bool x =>
      cases typedB with
      | bool y =>
        revert less
        cases x <;> cases y <;> decide
  | int it =>
    cases typedA
    cases typedB
    simp only [Value.precedes, decide_eq_true_eq] at less
    simp [Value.precedes, Value.sameAs]
    omega
  | float ft =>
    cases typedA with
    | float32 _ =>
      cases typedB with
      | float32 _ => exact BinaryFloat.lt_asymm less
    | float64 _ =>
      cases typedB with
      | float64 _ => exact BinaryFloat.lt_asymm less
  | enum names =>
    cases typedA
    cases typedB
    simp only [Value.precedes, decide_eq_true_eq] at less
    simp [Value.precedes, Value.sameAs]
    omega

theorem quiet {v : Value} (typed : v.OfType t) : v.quietNaNs.OfType t := by
  cases typed with
  | float32 hx =>
    exact .float32 (BinaryFloat.quiet_wellFormed (by unfold BinaryFloat.WellFormed; decide) hx)
  | float64 hx =>
    exact .float64 (BinaryFloat.quiet_wellFormed (by unfold BinaryFloat.WellFormed; decide) hx)
  | bool b => exact .bool b
  | int within => exact .int within
  | enum small => exact .enum small
  | _ => cases base

-- Ordered floats are no NaN, so quieting leaves them as they are.
theorem keepsOrder {a b : Value} (typedA : a.OfType t) (typedB : b.OfType t)
    (less : a.precedes b = true) : a.quietNaNs.precedes b.quietNaNs = true := by
  cases typedA with
  | float32 _ =>
    cases typedB with
    | float32 _ =>
      obtain ⟨numberA, numberB, -⟩ := BinaryFloat.lt_operands less
      simpa [Value.quietNaNs, BinaryFloat.quiet_of_isNaN numberA,
        BinaryFloat.quiet_of_isNaN numberB] using less
  | float64 _ =>
    cases typedB with
    | float64 _ =>
      obtain ⟨numberA, numberB, -⟩ := BinaryFloat.lt_operands less
      simpa [Value.quietNaNs, BinaryFloat.quiet_of_isNaN numberA,
        BinaryFloat.quiet_of_isNaN numberB] using less
  | _ => cases base <;> cases typedB <;> assumption

theorem sortsBack : SortsBack t :=
  ⟨fun _ _ => base.asymm, fun _ => base.quiet, fun _ _ => base.keepsOrder⟩

end BaseReadsBack

/-- The types whose values can stand as elements of a collection that reads back: a scalar type
that reads back, or a nullable one. -/
inductive ElementReadsBack : ValueType → Prop where
  | base {t : ValueType} : BaseReadsBack t → ElementReadsBack t
  | nullable {t : ValueType} : BaseReadsBack t → ElementReadsBack (.nullable t)

namespace ElementReadsBack

variable {t : ValueType} (element : ElementReadsBack t)
include element

theorem piece {v : Value} (typed : v.OfType t) : Piece v.format.toList := by
  cases element with
  | base base => exact (base.text typed).1
  | nullable base =>
    cases typed with
    | none =>
      show Piece "null".toList
      exact Piece.of_all (by decide) (by decide)
    | some held => exact (base.text held).1

-- Absent comes before present, and present values in the order of what they hold.
theorem sortsBack : SortsBack t := by
  cases element with
  | base base => exact base.sortsBack
  | nullable base =>
    refine ⟨fun a b typedA typedB less => ?_, fun v typed => ?_,
      fun a b typedA typedB less => ?_⟩
    · cases typedA with
      | none =>
        cases typedB with
        | none => cases less
        | some _ => exact ⟨rfl, rfl⟩
      | some heldA =>
        cases typedB with
        | none => cases less
        | some heldB =>
          obtain ⟨after, different⟩ := base.asymm heldA heldB less
          simp [Value.precedes, Value.sameAs, after, different]
    · cases typed with
      | none => exact .none _
      | some held => exact .some (base.quiet held)
    · cases typedA with
      | none =>
        cases typedB with
        | none => cases less
        | some _ => rfl
      | some heldA =>
        cases typedB with
        | none => cases less
        | some heldB =>
          have kept := base.keepsOrder heldA heldB less
          simpa [Value.quietNaNs, Value.precedes] using kept

end ElementReadsBack

/-- The types whose values read back from their text: the element types, collections of any
shape of them, and nullable such collections. -/
inductive ReadsBack : ValueType → Prop where
  | element {t : ValueType} : ElementReadsBack t → ReadsBack t
  | collection (shape : CollectionShape) {t : ValueType} : ElementReadsBack t →
      ReadsBack (.collection shape t)
  | nullableCollection (shape : CollectionShape) {t : ValueType} : ElementReadsBack t →
      ReadsBack (.nullable (.collection shape t))

namespace Provider

section Origins

variable {j : Journal}

theorem originForType_standard {t : ValueType} (reading : hasStandardReading t = true) :
    ∃ h, (standardWith j {}).originForType t = some (.declared h) ∧ h.parser = .standard t := by
  have typed := typeRule?_isSome_standard j {} t
  rw [reading] at typed
  obtain ⟨h, found⟩ := Option.isSome_iff_exists.mp typed
  obtain ⟨r, member, bound, rfl⟩ := typeRule?_eq_some found
  rw [standardWith_rules] at member
  obtain ⟨u, object, rfl⟩ := mem_standardRules member
  cases bound
  refine ⟨⟨object, .standard t⟩, ?_, rfl⟩
  unfold originForType
  rw [found]
  rfl

theorem originForType_enum (e : EnumType) :
    (standardWith j {}).originForType (.enum e) =
      some (.synthesized (.enumeration (.enum e))) := by
  simp [originForType, typeRule?_standard_eq_none (t := .enum e) rfl]

theorem originForType_nullable_enum (e : EnumType) :
    (standardWith j {}).originForType (.nullable (.enum e)) =
      some (.synthesized (.enumeration (.nullable (.enum e)))) := by
  simp [originForType, typeRule?_standard_eq_none (t := .nullable (.enum e)) rfl]

theorem originForType_nullable {t : ValueType} (notEnum : t.isEnum = false) {o : Origin}
    (found : (standardWith j {}).originForType t = some o) :
    (standardWith j {}).originForType (.nullable t) =
      some (.synthesized (.nullable (.nullable t) o.parser)) := by
  simp [originForType, typeRule?_standard_eq_none (t := .nullable t) rfl, enumInner_eq, notEnum,
    found]

theorem originForType_collection (shape : CollectionShape) {t : ValueType} {o : Origin}
    (found : (standardWith j {}).originForType t = some o) :
    (standardWith j {}).originForType (.collection shape t) =
      some (.synthesized (.collection (.collection shape t) o.parser {})) := by
  simp [originForType, typeRule?_standard_eq_none (t := .collection shape t) rfl, found]

-- A type lookup answers with a handler of the parser its origin names.
theorem ruleForType_of_origin {pv : Provider} {t : ValueType} {o : Origin}
    (found : pv.originForType t = some o) (j' : Journal) :
    ∃ h, (pv.ruleForType t).result j' = some h ∧ h.parser = o.parser := by
  have related := ruleForType_gives pv t j'
  rw [found] at related
  cases lookup : (pv.ruleForType t).result j' with
  | none =>
    rw [lookup] at related
    cases related
  | some h =>
    rw [lookup] at related
    cases related with
    | some gives => exact ⟨h, rfl, gives.parser_eq⟩

end Origins

end Provider

open Provider

namespace BaseReadsBack

variable {t : ValueType} (base : BaseReadsBack t)
include base

theorem origin (j : Journal) :
    ∃ o, (standardWith j {}).originForType t = some o ∧ o.parser.UndoesFormat t := by
  cases base with
  | bool =>
    obtain ⟨h, found, parser⟩ := originForType_standard (j := j) (t := .bool) rfl
    refine ⟨_, found, ?_⟩
    rw [Origin.parser, parser]
    exact Parser.standard_bool_undoesFormat
  | int it =>
    obtain ⟨h, found, parser⟩ := originForType_standard (j := j) (t := .int it) rfl
    refine ⟨_, found, ?_⟩
    rw [Origin.parser, parser]
    exact Parser.standard_int_undoesFormat it
  | float ft =>
    obtain ⟨h, found, parser⟩ := originForType_standard (j := j) (t := .float ft) rfl
    refine ⟨_, found, ?_⟩
    rw [Origin.parser, parser]
    exact Parser.standard_float_undoesFormat ft
  | enum names => exact ⟨_, originForType_enum _, Parser.enumeration_undoesFormat names⟩

-- A nullable enumeration has a parser of its own; other scalars are wrapped.
theorem nullableOrigin (j : Journal) :
    ∃ o, (standardWith j {}).originForType (.nullable t) = some o ∧
      o.parser.UndoesFormat (.nullable t) := by
  have present : ∀ v : Value, v.OfType t → isNullText (some v.format) = false :=
    fun v typed => (base.text typed).1.isNullText (base.text typed).2
  obtain ⟨o, found, undoes⟩ := base.origin j
  cases base with
  | enum names =>
    exact ⟨_, originForType_nullable_enum _, Parser.enumeration_nullable_undoesFormat names⟩
  | _ =>
    exact ⟨_, originForType_nullable rfl found, Parser.nullable_undoesFormat undoes present⟩

end BaseReadsBack

theorem ElementReadsBack.origin {t : ValueType} (element : ElementReadsBack t) (j : Journal) :
    ∃ o, (standardWith j {}).originForType t = some o ∧ o.parser.UndoesFormat t := by
  cases element with
  | base base => exact base.origin j
  | nullable base => exact base.nullableOrigin j

theorem ReadsBack.origin {t : ValueType} (readsBack : ReadsBack t) (j : Journal) :
    ∃ o, (standardWith j {}).originForType t = some o ∧ o.parser.UndoesFormat t := by
  cases readsBack with
  | element element => exact element.origin j
  | collection shape element =>
    obtain ⟨o, found, undoes⟩ := element.origin j
    exact ⟨_, originForType_collection shape found,
      Parser.collection_undoesFormat undoes (fun _ => element.piece) element.sortsBack⟩
  | @nullableCollection shape t element =>
    obtain ⟨o, found, undoes⟩ := element.origin j
    have inner : (Parser.collection (.collection shape t) o.parser {}).UndoesFormat
        (.collection shape t) :=
      Parser.collection_undoesFormat undoes (fun _ => element.piece) element.sortsBack
    -- a collection is written in brackets, which is no null text
    have present : ∀ v : Value, v.OfType (.collection shape t) →
        isNullText (some v.format) = false := by
      intro v typed
      cases typed with
      | @collection _ _ items _ _ =>
        have written : (Value.collection shape t items).format.toList =
            '[' :: ((Value.format.formatItems items).toList ++ [']']) := by
          simp [Value.format, String.toList_append]
        exact isNullText_bracketed written
    exact ⟨_, originForType_nullable rfl (originForType_collection shape found),
      Parser.nullable_undoesFormat inner present⟩

/-- The parser that the standard rules with parser fallbacks find for a type reads the text of
a value back as the value, each NaN as the quiet NaN. -/
def RoundTrips (j j' : Journal) (t : ValueType) (v : Value) : Prop :=
  ∃ h, ((standardWith j {}).ruleForType t).result j' = some h ∧
    h.parser.parse (some (t.format v)) = .ok v.quietNaNs

theorem ReadsBack.roundTrips {t : ValueType} (readsBack : ReadsBack t) (j j' : Journal)
    {v : Value} (typed : v.OfType t) : RoundTrips j j' t v := by
  obtain ⟨o, found, undoes⟩ := readsBack.origin j
  obtain ⟨h, lookup, parser⟩ := ruleForType_of_origin found j'
  refine ⟨h, lookup, ?_⟩
  rw [parser, typed.format_eq]
  exact undoes v typed

theorem not_roundTrips {j j' : Journal} {t : ValueType} {v : Value} {o : Origin}
    (found : (standardWith j {}).originForType t = some o)
    (differs : o.parser.parse (some (t.format v)) ≠ .ok v.quietNaNs) :
    ¬ RoundTrips j j' t v := by
  rintro ⟨h, lookup, read⟩
  obtain ⟨h', lookup', parser⟩ := ruleForType_of_origin found j'
  rw [lookup'] at lookup
  cases lookup
  rw [parser] at read
  exact differs read

section Outside

/-- Each shape outside the grammar has a value that does not read back: a list of lists is
split at every comma, a character is written in quotes, a text with a comma in a list is split,
the text `null` of a nullable text reads as absent, and so does a present absent value. -/
def outsideShapes : List Value :=
  [.collection .vec (.collection .vec (.int .i32))
      [.collection .vec (.int .i32) [.int .i32 1, .int .i32 2],
        .collection .vec (.int .i32) [.int .i32 3]],
    .char 'a',
    .collection .vec .text [.text "a,b"],
    .nullable .text (some (.text "null")),
    .nullable (.nullable (.int .i32)) (some (.nullable (.int .i32) none))]

/-- How many items a parsed collection holds. -/
def itemCount : Except ParseError Value → Nat
  | .ok (.collection _ _ items) => items.length
  | _ => 0

set_option maxRecDepth 8000 in
theorem outsideShapes_break :
    ∀ v ∈ outsideShapes, v.OfType v.type ∧ ¬ RoundTrips {} {} v.type v := by
  intro v member
  simp only [outsideShapes, List.mem_cons, List.not_mem_nil, or_false] at member
  obtain ⟨h, integer, parser⟩ := originForType_standard (j := {}) (t := .int .i32) rfl
  obtain ⟨h', text, parser'⟩ := originForType_standard (j := {}) (t := .text) rfl
  rcases member with rfl | rfl | rfl | rfl | rfl
  · -- `[[1, 2], [3]]` splits into `[1`, `2]` and `[3]`
    refine ⟨.collection (fun w inList => ?_) (by intro sorted; cases sorted),
      not_roundTrips (originForType_collection .vec (originForType_collection .vec integer)) ?_⟩
    · simp only [List.mem_cons, List.not_mem_nil, or_false] at inList
      rcases inList with rfl | rfl
      · refine .collection (fun n inner => ?_) (by intro sorted; cases sorted)
        simp only [List.mem_cons, List.not_mem_nil, or_false] at inner
        rcases inner with rfl | rfl <;> exact .int (by decide)
      · refine .collection (fun n inner => ?_) (by intro sorted; cases sorted)
        simp only [List.mem_cons, List.not_mem_nil, or_false] at inner
        rcases inner with rfl
        exact .int (by decide)
    · simp only [Origin.parser, parser]
      intro same
      cases same
  · -- `'a'` is three characters
    obtain ⟨h'', character, parser''⟩ := originForType_standard (j := {}) (t := .char) rfl
    refine ⟨.char 'a', not_roundTrips character ?_⟩
    simp only [Origin.parser, parser'']
    intro same
    cases same
  · -- `[a,b]` holds two texts
    refine ⟨.collection (fun w inList => ?_) (by intro sorted; cases sorted),
      not_roundTrips (originForType_collection .vec text) ?_⟩
    · simp only [List.mem_cons, List.not_mem_nil, or_false] at inList
      rcases inList with rfl
      exact .text _
    · simp only [Origin.parser, parser']
      intro same
      exact absurd (congrArg itemCount same) (by decide)
  · -- `null` is absent
    refine ⟨.some (.text _), not_roundTrips (originForType_nullable rfl text) ?_⟩
    simp only [Origin.parser, parser']
    intro same
    cases same
  · -- a present absent value is written `null`, which is absent
    refine ⟨.some (.none _),
      not_roundTrips (originForType_nullable rfl (originForType_nullable rfl integer)) ?_⟩
    simp only [Origin.parser, parser]
    intro same
    cases same

end Outside

/-- Parsing undoes formatting on the types that read back, from any journals; and each shape
outside them has a value of its type that does not read back. -/
theorem parsing_undoes_formatting :
    (∀ (j j' : Journal) (t : ValueType) (v : Value), ReadsBack t → v.OfType t →
      RoundTrips j j' t v) ∧
    ∀ v ∈ outsideShapes, v.OfType v.type ∧ ¬ RoundTrips {} {} v.type v :=
  ⟨fun j j' _ _ readsBack typed => readsBack.roundTrips j j' typed, outsideShapes_break⟩

theorem EnumType.color_namesReadBack : EnumType.color.NamesReadBack where
  listed := by decide
  pieces := by
    intro name member
    simp only [EnumType.color, List.mem_cons, List.not_mem_nil, or_false] at member
    rcases member with rfl | rfl | rfl <;> exact Piece.of_all (by decide) (by decide)
  notNull := by decide
  distinct := by decide

/-- `Option<BTreeSet<Option<Color>>>`. -/
def optionalColorSet : ValueType := .nullable (.collection .btreeSet (.nullable (.enum .color)))

/-- `Some({None, Some(Red), Some(Blue)})`. -/
def someColors : Value :=
  .nullable (.collection .btreeSet (.nullable (.enum .color)))
    (some (.collection .btreeSet (.nullable (.enum .color))
      [.nullable (.enum .color) none, .nullable (.enum .color) (some (.enum .color 0)),
        .nullable (.enum .color) (some (.enum .color 2))]))

theorem some_colors_read_back :
    ReadsBack optionalColorSet ∧ someColors.OfType optionalColorSet ∧
      RoundTrips {} {} optionalColorSet someColors := by
  have readsBack : ReadsBack optionalColorSet :=
    .nullableCollection .btreeSet (.nullable (.enum EnumType.color_namesReadBack))
  have typed : someColors.OfType optionalColorSet := by
    refine .some (.collection (fun v member => ?_) fun _ => by decide)
    simp only [List.mem_cons, List.not_mem_nil, or_false] at member
    rcases member with rfl | rfl | rfl
    · exact .none _
    · exact .some (.enum (by decide))
    · exact .some (.enum (by decide))
  exact ⟨readsBack, typed, parsing_undoes_formatting.1 {} {} _ _ readsBack typed⟩

/-- An enumeration that lists no variants writes its one value as `Nothing`, and the parser the
standard rules find for it knows no variant of that name. -/
theorem unlisted_enum_value_not_read_back :
    EnumType.noVariants.variants = [] ∧
    (Value.enum .noVariants 0).OfType (.enum .noVariants) ∧
    (ValueType.enum .noVariants).format (.enum .noVariants 0) = "Nothing" ∧
    ∃ h, ((standardWith {} {}).ruleForType (.enum .noVariants)).result {} = some h ∧
      h.parser.parse (some "Nothing") = .error (.unknownVariant "Nothing" "NoVariants" []) := by
  obtain ⟨h, lookup, parser⟩ :=
    ruleForType_of_origin (originForType_enum (j := {}) .noVariants) {}
  refine ⟨rfl, .enum (by decide), by decide, h, lookup, ?_⟩
  rw [parser]
  rfl

end Schemata
