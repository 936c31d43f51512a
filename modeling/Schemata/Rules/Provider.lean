import Schemata.Rules.Parser
import Schemata.Trace
import Schemata.Property.Basic

/-!
Rule providers: which parser reads a property or a type.

A rule binds a handler (a parser with an identity) to a property, to a type, or to nothing in
particular, and may be restricted to a source. Looking up a type takes the first rule bound to
exactly that type. Failing that, a provider with parser fallbacks synthesizes one when its
configuration allows: an enumeration parser for an enumeration or a nullable enumeration, a
nullable parser around the parser found for the inner type, a collection parser around the
parser found for the element type. Failing that too, the first rule bound to nothing answers,
if the configuration allows. Looking up a property first takes the first rule bound to a
property of the same type that the provider's comparer finds the same, then looks up the
property's type. Rules bound to properties never answer a type lookup.
-/

namespace Schemata

structure Handler where
  object : Nat
  parser : Parser

inductive RuleTarget where
  | property (p : Property)
  | type (t : ValueType)
  | untargeted

namespace RuleTarget

/-- How specific a binding is: properties over types over nothing. -/
def specificity : RuleTarget → Nat
  | .property _ => 2
  | .type _ => 1
  | .untargeted => 0

def debug : RuleTarget → String
  | .property p => "Property(" ++ p.debug ++ ")"
  | .type t => "Type(" ++ t.debug ++ ")"
  | .untargeted => "Untargeted"

end RuleTarget

structure Rule where
  target : RuleTarget
  handler : Handler
  source : Option String := none

namespace Rule

/-- Whether the rule serves a source: rules without a source serve all. -/
def servesSource (r : Rule) (source : String) : Bool :=
  match r.source with
  | some s => equalIgnoringCase s source
  | none => true

def debug (r : Rule) : String :=
  debugRecordPartial "Rule"
    [("target", r.target.debug),
     ("source_name", match r.source with | some s => "Some(" ++ quoteText s ++ ")" | none => "None")]

end Rule

inductive Fallbacks where
  | parsers
  | none
  deriving DecidableEq, Repr

namespace Fallbacks

def debug : Fallbacks → String
  | .parsers => "ParserFallbacks"
  | .none => "NoFallbacks"

end Fallbacks

/-- What a provider may do beyond its exact type rules. -/
structure ProviderConfig where
  comparer : Comparer := .byReference
  enumFallback : Bool := true
  nullableFallback : Bool := true
  collectionFallback : Bool := true
  untargetedFallback : Bool := true
  format : CollectionFormat := {}

namespace ProviderConfig

def debug (c : ProviderConfig) : String :=
  let flag : Bool → String := fun b => if b then "true" else "false"
  debugRecord "ProviderConfig"
    [("property_comparer", c.comparer.name), ("enum_fallback", flag c.enumFallback),
     ("nullable_fallback", flag c.nullableFallback),
     ("collection_fallback", flag c.collectionFallback),
     ("untargeted_fallback", flag c.untargetedFallback), ("collection_format", c.format.debug)]

end ProviderConfig

structure Provider where
  rules : List Rule
  fallbacks : Fallbacks := .parsers
  config : ProviderConfig := {}

def providerTarget : String := "understory_rules::provider"

def parserTarget : String := "understory_rules::parser"

namespace Provider

def len (pv : Provider) : Nat := pv.rules.length

def forSource (pv : Provider) (source : String) : Provider :=
  { pv with rules := pv.rules.filter (·.servesSource source) }

/-- The handler of the first rule bound to a property of `p`'s type that is the same as `p`. -/
def propertyRule? (pv : Provider) (p : Property) : Option Handler :=
  pv.rules.findSome? fun r =>
    match r.target with
    | .property q => if q.type == p.type && pv.config.comparer.same q p then some r.handler else none
    | _ => none

/-- The handler of the first rule bound to exactly `t`. -/
def typeRule? (pv : Provider) (t : ValueType) : Option Handler :=
  pv.rules.findSome? fun r =>
    match r.target with
    | .type u => if u == t then some r.handler else none
    | _ => none

def untargetedRule? (pv : Provider) : Option Handler :=
  pv.rules.findSome? fun r =>
    match r.target with
    | .untargeted => some r.handler
    | _ => none

/-- A synthesized handler, reported at debug level. -/
def synthesize (t : ValueType) (what : String) (parser : Parser) : Traced (Option Handler) := do
  let object ← freshObject
  emit .debug providerTarget ("synthesized " ++ what ++ " rule") [("value_type", t.fullName)]
  return some ⟨object, parser⟩

mutual

/-- The handler for a type: an exact type rule, a synthesized parser, or the untargeted rule. -/
def ruleForType (pv : Provider) (t : ValueType) : Traced (Option Handler) := do
  let typed ← match pv.typeRule? t with
    | some h => do
      emit .trace providerTarget "matched type rule" [("value_type", t.fullName)]
      pure (some h)
    | none => pv.synthesizedRule t
  match typed with
  | some h => return some h
  | none =>
    if !pv.config.untargetedFallback then return none
    match pv.untargetedRule? with
    | some h =>
      emit .trace providerTarget "matched untargeted rule" [("value_type", t.fullName)]
      return some h
    | none => return none
termination_by (sizeOf t, 1)

/-- The parser a provider synthesizes for a type without an exact rule. -/
def synthesizedRule (pv : Provider) (t : ValueType) : Traced (Option Handler) :=
  match t with
  | .enum e =>
    if pv.config.enumFallback && pv.fallbacks == .parsers then
      synthesize (.enum e) "enum" (.enumeration (.enum e))
    else pure none
  | .nullable inner => do
    let enumInner := match inner with
      | .enum _ => true
      | _ => false
    if pv.config.enumFallback && enumInner && pv.fallbacks == .parsers then
      synthesize (.nullable inner) "nullable enum" (.enumeration (.nullable inner))
    else if !pv.config.nullableFallback then pure none
    else
      match ← pv.ruleForType inner with
      | none => pure none
      | some h =>
        if pv.fallbacks == .parsers then
          synthesize (.nullable inner) "nullable" (.nullable (.nullable inner) h.parser)
        else pure none
  | .collection shape element => do
    if !pv.config.collectionFallback then pure none
    else
      match ← pv.ruleForType element with
      | none => pure none
      | some h =>
        if pv.fallbacks == .parsers then
          synthesize (.collection shape element) "collection"
            (.collection (.collection shape element) h.parser pv.config.format)
        else pure none
  | _ => pure none
termination_by (sizeOf t, 0)

end

/-- The handler for a property: a rule bound to it, or the handler for its type. -/
def ruleForProperty (pv : Provider) (p : Property) : Traced (Option Handler) := do
  match pv.propertyRule? p with
  | some h =>
    emit .trace providerTarget "matched property rule" [("property", p.name)]
    return some h
  | none => pv.ruleForType p.type

def debug (pv : Provider) : String :=
  debugRecord "RuleProvider"
    [("rules", "[" ++ ", ".intercalate (pv.rules.map Rule.debug) ++ "]"),
     ("fallbacks", pv.fallbacks.debug), ("config", pv.config.debug)]

end Provider

def standardTypes : List ValueType :=
  [.bool, .char] ++ IntType.all.map .int ++ [.float .f32, .float .f64, .text]

def standardRules : Traced (List Rule) :=
  standardTypes.mapM fun t => do
    let object ← freshObject
    return { target := .type t, handler := ⟨object, .standard t⟩ }

end Schemata
