import Mathlib.Tactic.SplitIfs
import Schemata.Rules.Provider
import Schemata.Service.Workspace.Parsing
import Schemata.Proofs.Traced

/-!
Handlers found by a disciplined provider are well typed.

A parser says which type it yields; it is well typed when every value it reads is of that
type. A provider whose rules are disciplined only finds parsers that say they yield the type
asked for and that are well typed. Its rules are disciplined when type and property rules carry
parsers of their target's type, every rule's parser is well typed, and no rule bound to nothing
answers. The standard rules are disciplined.

The handler a provider finds for a type is one of its rules' handlers or a parser made for the
lookup around the parsers found for the types inside; `Provider.originForType` says which,
without a journal, since the journal only numbers the handlers it makes. The checks inside a
made parser, on the value of a nullable parser's inner parser and on the items of a collection
parser, then always pass: such a parser reads as if they were not there. Reading a property
with the handler a disciplined provider finds never reports a type mismatch.
-/

namespace Schemata

open Traced

namespace Parser

/-- The parser yields values of its declared type only. -/
def YieldsOwnType (x : Parser) : Prop :=
  ∀ input v, x.parse input = .ok v → v.type = x.valueType

/-- Reading without the checks a wrapping parser makes on what its inner parser yields: a
nullable parser wraps whatever its inner parser reads, a collection parser collects the items
its element parser reads. -/
def parseUnchecked : Parser → Option String → Except ParseError Value
  | .nullable t inner, some text =>
    if isNullText (some text) then .ok (.nullable (innerType t) none)
    else (inner.parse (some text)).map fun v => .nullable (innerType t) (some v)
  | .collection (.collection shape element) parser format, some text =>
    (parseAll parser.parse (format.split (format.strip text))).map
      (Value.collect shape element)
  | x, input => x.parse input

/-- What makes the checks of a wrapping parser pass: a nullable parser is made for a nullable
type and its inner parser reads values of the inner type; a collection parser is made for a
collection type and its element parser reads values of the element type. -/
def ChecksPass : Parser → Prop
  | .nullable t inner =>
    ∃ u, t = .nullable u ∧ ∀ text v, inner.parse (some text) = .ok v → v.type = u
  | .collection t element _ =>
    ∃ shape u, t = .collection shape u ∧
      ∀ text v, element.parse (some text) = .ok v → v.type = u
  | _ => True

theorem readScalar_type {t : ValueType} {text : String} {v : Value}
    (read : readScalar t text = some v) : v.type = t := by
  cases t with
  | bool =>
    simp only [readScalar] at read
    split at read
    · cases read; rfl
    · split at read
      · cases read; rfl
      · cases read
  | char =>
    simp only [readScalar] at read
    split at read
    · cases read; rfl
    · cases read
  | int it =>
    simp only [readScalar, Option.bind_eq_some_iff] at read
    obtain ⟨n, -, inRange⟩ := read
    split at inRange
    · cases inRange; rfl
    · cases inRange
  | float f =>
    cases f <;> simp only [readScalar, Option.map_eq_some_iff] at read <;>
      obtain ⟨x, -, rfl⟩ := read <;> rfl
  | text => cases read; rfl
  | _ => cases read

theorem standard_yieldsOwnType (t : ValueType) : (Parser.standard t).YieldsOwnType := by
  intro input v parsed
  cases input with
  | none => cases parsed
  | some text =>
    simp only [parse] at parsed
    split at parsed
    · cases parsed
      exact readScalar_type ‹_›
    · cases parsed

theorem nullable_innerType {t : ValueType} (nullable : t.isNullable = true) :
    ValueType.nullable (innerType t) = t := by
  cases t <;> simp_all [ValueType.isNullable, ValueType.kind, innerType]

theorem innerType_of_not_nullable {t : ValueType} (notNullable : t.isNullable = false) :
    innerType t = t := by
  cases t <;> simp_all [ValueType.isNullable, ValueType.kind, innerType]

theorem variant_type {u : ValueType} {text : String} {variant : Value}
    (found : (match u with
      | .enum e => readVariant e text
      | _ => none) = some variant) : variant.type = u := by
  cases u with
  | enum e =>
    simp only [readVariant, Option.map_eq_some_iff] at found
    obtain ⟨index, -, rfl⟩ := found
    rfl
  | _ => cases found

theorem enumeration_yieldsOwnType (t : ValueType) : (Parser.enumeration t).YieldsOwnType := by
  intro input v parsed
  simp only [parse] at parsed
  split at parsed
  · rename_i nullAccepted
    cases parsed
    exact nullable_innerType (Bool.and_eq_true_iff.mp nullAccepted).1
  · split at parsed
    · cases parsed
    · split at parsed
      · cases parsed
      · rename_i variant found
        cases parsed
        -- a nullable parser wraps the variant, any other returns it as it is
        cases nullable : t.isNullable
        · simp only [Bool.false_eq_true, ↓reduceIte, valueType]
          rw [variant_type found, innerType_of_not_nullable nullable]
        · simpa [nullable, Value.type, valueType] using nullable_innerType nullable

theorem nullable_yieldsOwnType (u : ValueType) (inner : Parser) :
    (Parser.nullable (.nullable u) inner).YieldsOwnType := by
  intro input v parsed
  simp only [parse] at parsed
  split at parsed
  · split at parsed
    · cases parsed; rfl
    · split at parsed
      · cases parsed
      · split at parsed
        · cases parsed; rfl
        · cases parsed
  · cases parsed; rfl

theorem collection_yieldsOwnType (shape : CollectionShape) (u : ValueType) (element : Parser)
    (format : CollectionFormat) :
    (Parser.collection (.collection shape u) element format).YieldsOwnType := by
  intro input v parsed
  simp only [parse] at parsed
  split at parsed
  · cases parsed
  · split at parsed
    · cases parsed
    · split at parsed
      · cases parsed; rfl
      · cases parsed

theorem parseAll_types {parse : Option String → Except ParseError Value} {u : ValueType}
    (typed : ∀ text v, parse (some text) = .ok v → v.type = u) :
    ∀ pieces items, parseAll parse pieces = .ok items → ∀ v ∈ items, v.type = u
  | [], items, parsed => by
    cases parsed
    simp
  | piece :: rest, items, parsed => by
    simp only [parseAll] at parsed
    split at parsed
    · cases parsed
    · rename_i head read
      split at parsed
      · cases parsed
      · rename_i tail readRest
        cases parsed
        intro v member
        cases member with
        | head => exact typed piece head read
        | tail _ later => exact parseAll_types typed rest tail readRest v later

/-- A parser whose checks pass reads as if it made none. -/
theorem parse_eq_parseUnchecked {x : Parser} (checks : x.ChecksPass)
    (input : Option String) : x.parse input = x.parseUnchecked input := by
  cases x with
  | nullable t inner =>
    obtain ⟨u, rfl, typed⟩ := checks
    cases input with
    | none => rfl
    | some text =>
      simp only [parse, parseUnchecked]
      split
      · rfl
      · cases read : inner.parse (some text) with
        | error e => rfl
        | ok v => simp [typed text v read, innerType, Except.map]
  | collection t element format =>
    obtain ⟨shape, u, rfl, typed⟩ := checks
    cases input with
    | none => rfl
    | some text =>
      simp only [parse, parseUnchecked]
      cases read : parseAll element.parse (format.split (format.strip text)) with
      | error e => rfl
      | ok items =>
        have allTyped : items.all (·.type == u) = true := by
          simpa [List.all_eq_true] using parseAll_types typed _ items read
        simp [Except.map, allTyped]
  | _ => rfl

theorem parseAll_ne_typeMismatch {parse : Option String → Except ParseError Value}
    {name expected found : String}
    (noMismatch : ∀ text, parse (some text) ≠ .error (.typeMismatch name expected found)) :
    ∀ pieces, parseAll parse pieces ≠ .error (.typeMismatch name expected found)
  | [] => nofun
  | piece :: rest => by
    simp only [parseAll]
    split
    · rename_i e failed
      intro same
      cases same
      exact noMismatch piece failed
    · split
      · rename_i e failed
        intro same
        cases same
        exact parseAll_ne_typeMismatch noMismatch rest failed
      · nofun

/-- No parser reports a type mismatch: only reading a property does. -/
theorem parse_ne_typeMismatch (x : Parser) (input : Option String)
    (name expected found : String) :
    x.parse input ≠ .error (.typeMismatch name expected found) := by
  induction x generalizing input with
  | standard t =>
    simp only [parse]
    split
    · nofun
    · split <;> nofun
  | enumeration t =>
    simp only [parse]
    split
    · nofun
    · split
      · nofun
      · split <;> nofun
  | nullable t inner ih =>
    cases input with
    | none => nofun
    | some text =>
      simp only [parse]
      split
      · nofun
      · split
        · rename_i e failed
          intro same
          cases same
          exact ih (some text) failed
        · split <;> nofun
  | collection t element format ih =>
    cases input with
    | none => nofun
    | some text =>
      simp only [parse]
      split
      · rename_i e failed
        intro same
        cases same
        exact parseAll_ne_typeMismatch (fun piece => ih (some piece)) _ failed
      · split
        · split <;> nofun
        · nofun
  | constant declared value => nofun
  | failing declared label =>
    cases input <;> nofun

end Parser

/-- Where the handler a provider finds comes from: one of its rules, or a parser made for the
lookup. -/
inductive Origin where
  | declared (h : Handler)
  | synthesized (parser : Parser)

namespace Origin

def parser : Origin → Parser
  | .declared h => h.parser
  | .synthesized x => x

/-- A handler comes from an origin: it is the rule's own handler, or a handler of the made
parser, whatever object the journal numbers it with. -/
def Gives : Origin → Handler → Prop
  | .declared h, found => found = h
  | .synthesized x, found => found.parser = x

theorem found_none {found : Option Handler} (related : Option.Rel Gives none found) :
    found = none := by
  cases related
  rfl

theorem Gives.parser_eq {o : Origin} {h : Handler} (gives : o.Gives h) : h.parser = o.parser := by
  cases o with
  | declared h' => cases gives; rfl
  | synthesized x => exact gives

end Origin

namespace Provider

/-- The origin of the handler a provider finds for a type: the first rule bound to exactly the
type; else, with parser fallbacks and as the configuration allows, an enumeration parser for an
enumeration or a nullable enumeration, a nullable parser around the parser found for the inner
type, a collection parser around the parser found for the element type; else the first rule
bound to nothing, when the configuration allows. -/
def originForType (pv : Provider) (t : ValueType) : Option Origin :=
  let synthesized : Option Origin :=
    match t with
    | .enum e =>
      if pv.config.enumFallback && pv.fallbacks == .parsers then
        some (.synthesized (.enumeration (.enum e)))
      else none
    | .nullable inner =>
      let enumInner := match inner with
        | .enum _ => true
        | _ => false
      if pv.config.enumFallback && enumInner && pv.fallbacks == .parsers then
        some (.synthesized (.enumeration (.nullable inner)))
      else if !pv.config.nullableFallback then none
      else (pv.originForType inner).bind fun o =>
        if pv.fallbacks == .parsers then
          some (.synthesized (.nullable (.nullable inner) o.parser))
        else none
    | .collection shape element =>
      if !pv.config.collectionFallback then none
      else (pv.originForType element).bind fun o =>
        if pv.fallbacks == .parsers then
          some (.synthesized (.collection (.collection shape element) o.parser pv.config.format))
        else none
    | _ => none
  (((pv.typeRule? t).map .declared).or synthesized).or
    (if pv.config.untargetedFallback then pv.untargetedRule?.map .declared else none)

/-- The origin of the handler a provider finds for a property: the first rule bound to a
property the comparer finds the same, else the origin for the property's type. -/
def originForProperty (pv : Provider) (p : Property) : Option Origin :=
  ((pv.propertyRule? p).map .declared).or (pv.originForType p.type)

section Lookups

variable {pv : Provider}

theorem typeRule?_eq_some {t : ValueType} {h : Handler} (found : pv.typeRule? t = some h) :
    ∃ r ∈ pv.rules, r.target = .type t ∧ r.handler = h := by
  obtain ⟨r, member, hit⟩ := List.exists_of_findSome?_eq_some found
  refine ⟨r, member, ?_⟩
  split at hit
  · rename_i u bound
    split at hit
    · rename_i same
      cases hit
      exact ⟨by rw [bound, eq_of_beq same], rfl⟩
    · cases hit
  · cases hit

theorem propertyRule?_eq_some {p : Property} {h : Handler}
    (found : pv.propertyRule? p = some h) :
    ∃ r ∈ pv.rules, ∃ q, r.target = .property q ∧ q.type = p.type ∧ r.handler = h := by
  obtain ⟨r, member, hit⟩ := List.exists_of_findSome?_eq_some found
  refine ⟨r, member, ?_⟩
  split at hit
  · rename_i q bound
    split at hit
    · rename_i same
      cases hit
      exact ⟨q, bound, eq_of_beq (Bool.and_eq_true_iff.mp same).1, rfl⟩
    · cases hit
  · cases hit

theorem untargetedRule?_eq_some {h : Handler} (found : pv.untargetedRule? = some h) :
    ∃ r ∈ pv.rules, r.target = .untargeted ∧ r.handler = h := by
  obtain ⟨r, member, hit⟩ := List.exists_of_findSome?_eq_some found
  refine ⟨r, member, ?_⟩
  split at hit
  · cases hit
    exact ⟨‹_›, rfl⟩
  · cases hit

end Lookups

section Journal

variable {pv : Provider}

@[simp] theorem result_synthesize (t : ValueType) (what : String) (parser : Parser)
    (j : Journal) : (synthesize t what parser).result j = some ⟨j.nextObject, parser⟩ := rfl

-- A type lookup takes the exact type rule or the made parser, and only then the rule bound
-- to nothing.
theorem ruleForType_result (t : ValueType) (j : Journal) :
    (pv.ruleForType t).result j =
      (match pv.typeRule? t with
        | some h => some h
        | none => (pv.synthesizedRule t).result j).or
        (if pv.config.untargetedFallback then pv.untargetedRule? else none) := by
  rw [ruleForType]
  cases pv.typeRule? t with
  | some h => simp
  | none =>
    simp only [result_bind]
    cases (pv.synthesizedRule t).result j with
    | some h => simp
    | none =>
      cases pv.config.untargetedFallback <;> cases pv.untargetedRule? <;> simp

theorem ruleForProperty_result (p : Property) (j : Journal) :
    (pv.ruleForProperty p).result j =
      (pv.propertyRule? p).or ((pv.ruleForType p.type).result j) := by
  rw [ruleForProperty]
  cases pv.propertyRule? p <;> simp

theorem gives_or {o o' : Option Origin} {h h' : Option Handler}
    (first : Option.Rel Origin.Gives o h) (second : Option.Rel Origin.Gives o' h') :
    Option.Rel Origin.Gives (o.or o') (h.or h') := by
  cases first with
  | some gives => exact .some gives
  | none => exact second

theorem gives_declared (found : Option Handler) :
    Option.Rel Origin.Gives (found.map .declared) found := by
  cases found with
  | some h => exact .some rfl
  | none => exact .none

-- A parser made around the handler found for the type inside is related to the origin made
-- around that handler's origin.
theorem gives_fallback {inside : Option Origin} {lookup : Traced (Option Handler)} {j : Journal}
    (related : Option.Rel Origin.Gives inside (lookup.result j)) (enabled parsers : Bool)
    (t : ValueType) (what : String) (wrap : Parser → Parser) :
    Option.Rel Origin.Gives
      (if !enabled then none
       else inside.bind fun o => if parsers then some (.synthesized (wrap o.parser)) else none)
      ((if !enabled then pure none
        else lookup >>= fun found =>
          match found with
          | none => pure none
          | some h => if parsers then synthesize t what (wrap h.parser) else pure none).result
        j) := by
  cases enabled with
  | false =>
    simp only [Bool.not_false, ↓reduceIte, result_pure]
    exact .none
  | true =>
    simp only [Bool.not_true, Bool.false_eq_true, ↓reduceIte, result_bind]
    revert related
    generalize lookup.result j = found
    intro related
    cases related with
    | none => exact .none
    | some gives =>
      cases parsers with
      | false => exact .none
      | true =>
        simp only [↓reduceIte, result_synthesize, Option.bind_some]
        exact .some (congrArg wrap gives.parser_eq)

theorem gives_of_synthesized {t : ValueType} {j : Journal} (synthesized : Option Origin)
    (origin : pv.originForType t = ((((pv.typeRule? t).map .declared).or synthesized).or
      (if pv.config.untargetedFallback then pv.untargetedRule?.map .declared else none)))
    (made : Option.Rel Origin.Gives synthesized ((pv.synthesizedRule t).result j)) :
    Option.Rel Origin.Gives (pv.originForType t) ((pv.ruleForType t).result j) := by
  rw [ruleForType_result, origin]
  refine gives_or ?_ ?_
  · cases pv.typeRule? t with
    | some h => exact .some rfl
    | none => exact made
  · split
    · exact gives_declared _
    · exact .none

/-- The handler of a type lookup comes from the origin computed for the type, whatever the
journal. -/
theorem ruleForType_gives (pv : Provider) (t : ValueType) (j : Journal) :
    Option.Rel Origin.Gives (pv.originForType t) ((pv.ruleForType t).result j) := by
  -- on the structure of the type: a made parser wraps the handler found for the type inside
  induction t generalizing j with
  | enum e =>
    refine gives_of_synthesized _ rfl ?_
    simp only [synthesizedRule]
    split_ifs
    · exact .some rfl
    · exact .none
  | nullable inner ih =>
    refine gives_of_synthesized _ rfl ?_
    -- both sides ask whether the inner type is an enumeration, each by its own match
    cases inner with
    | enum e =>
      simp only [synthesizedRule, Bool.and_true]
      split
      · exact .some rfl
      · exact gives_fallback (ih j) _ _ _ _ (Parser.nullable (.nullable (.enum e)))
    | _ =>
      simp only [synthesizedRule, Bool.and_false, Bool.false_and, Bool.false_eq_true,
        ↓reduceIte]
      exact gives_fallback (ih j) _ _ _ _ (Parser.nullable (.nullable _))
  | collection shape element ih =>
    refine gives_of_synthesized _ rfl ?_
    simp only [synthesizedRule]
    exact gives_fallback (ih j) _ _ _ _
      (fun x => Parser.collection (.collection shape element) x pv.config.format)
  | _ =>
    refine gives_of_synthesized none rfl ?_
    simp only [synthesizedRule, result_pure]
    exact .none

theorem ruleForProperty_gives (pv : Provider) (p : Property) (j : Journal) :
    Option.Rel Origin.Gives (pv.originForProperty p) ((pv.ruleForProperty p).result j) := by
  rw [ruleForProperty_result, originForProperty]
  exact gives_or (gives_declared _) (ruleForType_gives pv p.type j)

end Journal

/-- What a provider's rules must be for the parsers it finds to be well typed: a rule bound to
a type carries a parser of that type, a rule bound to a property a parser of the property's
type, every rule's parser yields values of its own type only, and no rule bound to nothing
answers a lookup. -/
structure Disciplined (pv : Provider) : Prop where
  typeRules : ∀ r ∈ pv.rules, ∀ t, r.target = .type t → r.handler.parser.valueType = t
  propertyRules : ∀ r ∈ pv.rules, ∀ q, r.target = .property q →
    r.handler.parser.valueType = q.type
  wellTyped : ∀ r ∈ pv.rules, r.handler.parser.YieldsOwnType
  noUntargeted : pv.config.untargetedFallback = false ∨ ∀ r ∈ pv.rules, r.target ≠ .untargeted

/-- What the origin found for type `t` guarantees: a handler of one of the rules, whose parser
says it yields `t` and yields values of it only; or a made parser that does the same and whose
checks pass. -/
def Sound (pv : Provider) (t : ValueType) : Origin → Prop
  | .declared h =>
    h ∈ pv.rules.map (·.handler) ∧ h.parser.valueType = t ∧ h.parser.YieldsOwnType
  | .synthesized x => x.valueType = t ∧ x.YieldsOwnType ∧ x.ChecksPass

/-- What the handler a provider finds for type `t` is: its parser says it yields `t` and yields
values of `t` only, and unless it is one of the rules' handlers, it reads as if the checks it
makes on its inner parser were not there. -/
structure WellTypedFor (pv : Provider) (t : ValueType) (h : Handler) : Prop where
  declares : h.parser.valueType = t
  yields : h.parser.YieldsOwnType
  unchecked : h ∉ pv.rules.map (·.handler) →
    ∀ input, h.parser.parse input = h.parser.parseUnchecked input

section Discipline

variable {pv : Provider}

theorem Sound.parser {t : ValueType} {o : Origin} (sound : pv.Sound t o) :
    o.parser.valueType = t ∧ o.parser.YieldsOwnType := by
  cases o with
  | declared h => exact sound.2
  | synthesized x => exact ⟨sound.1, sound.2.1⟩

theorem Sound.wellTypedFor {t : ValueType} {o : Origin} {h : Handler} (sound : pv.Sound t o)
    (gives : o.Gives h) : pv.WellTypedFor t h := by
  cases o with
  | declared d =>
    cases gives
    exact ⟨sound.2.1, sound.2.2, fun notRule => absurd sound.1 notRule⟩
  | synthesized x =>
    obtain ⟨object, parser⟩ := h
    change parser = x at gives
    subst gives
    exact ⟨sound.1, sound.2.1, fun _ => Parser.parse_eq_parseUnchecked sound.2.2⟩

theorem wellTypedFor_of_gives {t : ValueType} {origin : Option Origin} {h : Handler}
    (related : Option.Rel Origin.Gives origin (some h))
    (sound : ∀ o, origin = some o → pv.Sound t o) : pv.WellTypedFor t h := by
  cases related with
  | some gives => exact (sound _ rfl).wellTypedFor gives

theorem Disciplined.sound_of_rule (disc : pv.Disciplined) {r : Rule} (member : r ∈ pv.rules)
    {t : ValueType} (declares : r.handler.parser.valueType = t) :
    pv.Sound t (.declared r.handler) :=
  ⟨List.mem_map_of_mem member, declares, disc.wellTyped r member⟩

-- An exact type rule is sound by discipline, and no rule bound to nothing answers.
theorem Disciplined.sound_of_synthesized (disc : pv.Disciplined) {t : ValueType}
    {synthesized : Option Origin} (made : ∀ o, synthesized = some o → pv.Sound t o)
    (o : Origin)
    (found : (((pv.typeRule? t).map .declared).or synthesized).or
      (if pv.config.untargetedFallback then pv.untargetedRule?.map .declared else none) =
        some o) :
    pv.Sound t o := by
  cases typed : pv.typeRule? t with
  | some h =>
    obtain ⟨r, member, bound, rfl⟩ := typeRule?_eq_some typed
    simp only [typed, Option.map_some, Option.some_or, Option.some.injEq] at found
    subst found
    exact disc.sound_of_rule member (disc.typeRules r member t bound)
  | none =>
    simp only [typed, Option.map_none, Option.none_or] at found
    cases madeHere : synthesized with
    | some made' =>
      simp only [madeHere, Option.some_or, Option.some.injEq] at found
      subst found
      exact made made' madeHere
    | none =>
      simp only [madeHere, Option.none_or] at found
      split at found
      · rename_i enabled
        obtain ⟨h, untargeted, -⟩ := Option.map_eq_some_iff.mp found
        obtain ⟨r, member, bound, -⟩ := untargetedRule?_eq_some untargeted
        rcases disc.noUntargeted with off | absent
        · simp [off] at enabled
        · exact absurd bound (absent r member)
      · cases found

theorem sound_fallback {inside t : ValueType} {origin : Option Origin}
    (insideSound : ∀ o, origin = some o → pv.Sound inside o) (enabled parsers : Bool)
    (wrap : Parser → Parser)
    (wrapSound : ∀ x, x.valueType = inside → x.YieldsOwnType → pv.Sound t (.synthesized (wrap x)))
    (o : Origin)
    (found : (if !enabled then none
      else origin.bind fun o => if parsers then some (.synthesized (wrap o.parser)) else none) =
        some o) :
    pv.Sound t o := by
  split at found
  · cases found
  · obtain ⟨o', insideFound, wrapped⟩ := Option.bind_eq_some_iff.mp found
    split at wrapped
    · cases wrapped
      have ⟨declares, yields⟩ := (insideSound o' insideFound).parser
      exact wrapSound _ declares yields
    · cases wrapped

theorem enumInner_eq (inner : ValueType) :
    (match inner with
      | .enum _ => true
      | _ => false) = inner.isEnum := by
  cases inner <;> rfl

theorem Disciplined.originForType_sound (disc : pv.Disciplined) (t : ValueType) :
    ∀ o, pv.originForType t = some o → pv.Sound t o := by
  -- on the structure of the type, as the origin is computed
  induction t with
  | enum e =>
    intro o found
    refine disc.sound_of_synthesized ?_ o found
    intro o made
    split at made
    · cases made
      exact ⟨rfl, Parser.enumeration_yieldsOwnType _, trivial⟩
    · cases made
  | nullable inner ih =>
    intro o found
    refine disc.sound_of_synthesized ?_ o found
    intro o made
    simp only [enumInner_eq] at made
    split at made
    · cases made
      exact ⟨rfl, Parser.enumeration_yieldsOwnType _, trivial⟩
    · refine sound_fallback ih _ _ (Parser.nullable (.nullable inner)) ?_ o made
      intro x declares yields
      exact ⟨rfl, Parser.nullable_yieldsOwnType _ _, inner, rfl,
        fun text v read => (yields _ _ read).trans declares⟩
  | collection shape element ih =>
    intro o found
    refine disc.sound_of_synthesized ?_ o found
    refine sound_fallback ih _ _
      (fun x => Parser.collection (.collection shape element) x pv.config.format) ?_
    intro x declares yields
    exact ⟨rfl, Parser.collection_yieldsOwnType _ _ _ _, shape, element, rfl,
      fun text v read => (yields _ _ read).trans declares⟩
  | _ =>
    intro o found
    exact disc.sound_of_synthesized (fun o made => by cases made) o found

theorem Disciplined.originForProperty_sound (disc : pv.Disciplined) (p : Property) (o : Origin)
    (found : pv.originForProperty p = some o) : pv.Sound p.type o := by
  cases bound : pv.propertyRule? p with
  | some h =>
    obtain ⟨r, member, q, target, sameType, rfl⟩ := propertyRule?_eq_some bound
    simp only [originForProperty, bound, Option.map_some, Option.some_or,
      Option.some.injEq] at found
    subst found
    exact disc.sound_of_rule member ((disc.propertyRules r member q target).trans sameType)
  | none =>
    simp only [originForProperty, bound, Option.map_none, Option.none_or] at found
    exact disc.originForType_sound p.type o found

theorem Disciplined.ruleForType_wellTypedFor (disc : pv.Disciplined) {t : ValueType}
    {j : Journal} {h : Handler} (found : (pv.ruleForType t).result j = some h) :
    pv.WellTypedFor t h :=
  wellTypedFor_of_gives (found ▸ ruleForType_gives pv t j) (disc.originForType_sound t)

theorem Disciplined.ruleForProperty_wellTypedFor (disc : pv.Disciplined) {p : Property}
    {j : Journal} {h : Handler} (found : (pv.ruleForProperty p).result j = some h) :
    pv.WellTypedFor p.type h :=
  wellTypedFor_of_gives (found ▸ ruleForProperty_gives pv p j) (disc.originForProperty_sound p)

/-- Reading a property with a handler well typed for its type is reading with the parser. -/
theorem parseProperty_wellTyped {p : Property} {h : Handler}
    (declares : h.parser.valueType = p.type) (yields : h.parser.YieldsOwnType)
    (input : Option String) (j : Journal) :
    (parseProperty p (some h) input).result j =
      (h.parser.parse input).map fun v => some ⟨p, v, .defined⟩ := by
  simp only [parseProperty, declares, bne_self_eq_false, Bool.false_eq_true, ↓reduceIte]
  cases read : h.parser.parse input with
  | error e => rfl
  | ok v => simp [yields input v read, declares, Except.map]

theorem Disciplined.parseProperty_ne_typeMismatch (disc : pv.Disciplined) (p : Property)
    (input : Option String) (j j' : Journal) (name expected found : String) :
    (parseProperty p ((pv.ruleForProperty p).result j) input).result j' ≠
      .error (.typeMismatch name expected found) := by
  cases lookup : (pv.ruleForProperty p).result j with
  | none => simp [parseProperty]
  | some h =>
    have typed := disc.ruleForProperty_wellTypedFor lookup
    rw [parseProperty_wellTyped typed.declares typed.yields]
    cases read : h.parser.parse input with
    | error e =>
      intro same
      cases same
      exact Parser.parse_ne_typeMismatch h.parser input name expected found read
    | ok v =>
      intro same
      cases same

end Discipline

theorem mem_standardRules {r : Rule} {j : Journal} (member : r ∈ standardRules.result j) :
    ∃ t object, r = { target := .type t, handler := ⟨object, .standard t⟩ } := by
  unfold standardRules at member
  generalize standardTypes = types at member
  induction types generalizing j with
  | nil => simp at member
  | cons t rest ih =>
    simp only [List.mapM_cons, result_bind, result_pure, result_freshObject,
      List.mem_cons] at member
    rcases member with rfl | later
    · exact ⟨t, _, rfl⟩
    · exact ih later

theorem standardRules_disciplined (j : Journal) (fallbacks : Fallbacks)
    (config : ProviderConfig) :
    Disciplined { rules := standardRules.result j, fallbacks, config } := by
  -- every rule is a standard one; unfolding the rules themselves would run the journal
  have standard : ∀ r ∈ standardRules.result j,
      ∃ t object, r = { target := .type t, handler := ⟨object, .standard t⟩ } :=
    fun _ member => mem_standardRules member
  refine ⟨?_, ?_, ?_, .inr ?_⟩
  · intro r member t bound
    dsimp only at member
    obtain ⟨u, object, rfl⟩ := standard r member
    cases bound
    rfl
  · intro r member q bound
    dsimp only at member
    obtain ⟨u, object, rfl⟩ := standard r member
    cases bound
  · intro r member
    dsimp only at member
    obtain ⟨u, object, rfl⟩ := standard r member
    exact Parser.standard_yieldsOwnType u
  · intro r member bound
    dsimp only at member
    obtain ⟨u, object, rfl⟩ := standard r member
    cases bound

/-- The standard rules are disciplined under any fallbacks and configuration; and a disciplined
provider, from any journal, finds for every type and every property only handlers well typed
for the type asked for, so that reading a property with what it finds never reports a type
mismatch. -/
theorem found_parsers_well_typed :
    (∀ j fallbacks config,
      Disciplined { rules := standardRules.result j, fallbacks, config }) ∧
    ∀ pv : Provider, pv.Disciplined → ∀ j,
      (∀ t h, (pv.ruleForType t).result j = some h → pv.WellTypedFor t h) ∧
      (∀ p h, (pv.ruleForProperty p).result j = some h → pv.WellTypedFor p.type h) ∧
      ∀ p input j' name expected found,
        (parseProperty p ((pv.ruleForProperty p).result j) input).result j' ≠
          .error (.typeMismatch name expected found) := by
  refine ⟨standardRules_disciplined, ?_⟩
  intro pv disc j
  refine ⟨fun t h found => disc.ruleForType_wellTypedFor found,
    fun p h found => disc.ruleForProperty_wellTypedFor found, ?_⟩
  intro p input j' name expected found
  exact disc.parseProperty_ne_typeMismatch p input j j' name expected found

-- The standard rules with parser fallbacks and the default configuration.
def standardProvider : Provider := { rules := standardRules.result {} }

def optionalIntList : ValueType := .nullable (.collection .vec (.int .i32))

theorem standard_optional_lists_well_typed :
    standardProvider.Disciplined ∧
    ∃ h, (standardProvider.ruleForType optionalIntList).result {} = some h ∧
      standardProvider.WellTypedFor optionalIntList h := by
  have disciplined : standardProvider.Disciplined := found_parsers_well_typed.1 {} .parsers {}
  -- the provider makes a nullable parser around a collection parser of standard integers
  obtain ⟨o, origin⟩ : ∃ o, standardProvider.originForType optionalIntList = some o := ⟨_, rfl⟩
  have related := ruleForType_gives standardProvider optionalIntList {}
  rw [origin] at related
  cases found : (standardProvider.ruleForType optionalIntList).result {} with
  | none =>
    rw [found] at related
    cases related
  | some h =>
    exact ⟨disciplined, h, rfl,
      (found_parsers_well_typed.2 standardProvider disciplined {}).1 optionalIntList h found⟩

end Provider

end Schemata
