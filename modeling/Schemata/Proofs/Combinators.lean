import Schemata.Validation.Rule
import Schemata.Proofs.Cycles
import Schemata.Proofs.Templates

/-!
Rules combined with `both`, `either` and `customized`.

Resolution, and so validation, returns the same from every journal: the journal only records
events. The messages of a rule can therefore be spoken of without a journal, and each combinator
is a function of the messages of its parts. `both` joins them, or keeps the first one when it
breaks on the first error; `either` gives nothing when one side passes and otherwise one message
at the worst severity of both sides, about the first side's property, whose text is the two
sides' texts in brackets; `customized` changes the template or the severity of each message and
keeps the rest.

Main statement: a rule tree passes exactly when the formula that reads `both` as conjunction,
`either` as disjunction and `customized` as the rule inside holds of its leaves, and the
messages of each combinator have the shapes above.
-/

namespace Schemata

open Traced

namespace Resolver

variable {r : Resolver} {fuel : Nat} {stack : List Property} {q : Property}

theorem calculate_zero {c : Calculator} {j : Journal} :
    (r.calculate 0 stack q c).result j = .error (cycleAt stack q) := by
  rw [calculate]
  split <;> simp [cycleAt]

theorem readEach_ignoresJournal {read : Property → Traced (Except ResolveError Value)}
    (each : ∀ q, (read q).IgnoresJournal) : ∀ pending, (readEach read pending).IgnoresJournal
  | [] => fun _ _ => rfl
  | q :: rest => by
    intro j j'
    rw [readEach_cons, readEach_cons, each q j j']
    cases (read q).result j' with
    | error e => rfl
    | ok v => rw [readEach_ignoresJournal each rest _ ((read q).after j')]

theorem resolveWith_ignoresJournal
    (calculation : ∀ c, (r.calculate fuel stack q c).IgnoresJournal) :
    (r.resolveWith fuel stack q).IgnoresJournal := by
  intro j j'
  cases found : r.stored? q with
  | some v => rw [resolveWith_stored found, resolveWith_stored found]
  | none =>
    cases calculator : r.calculatorFor? q with
    | some c =>
      rw [resolveWith_calculated found calculator, resolveWith_calculated found calculator,
        calculation c j j']
    | none =>
      rw [resolveWith_uncalculated found calculator, resolveWith_uncalculated found calculator]

theorem read_ignoresJournal (resolution : (r.resolveWith fuel stack q).IgnoresJournal) :
    (r.read fuel stack q).IgnoresJournal := by
  intro j j'
  rw [read_result, read_result, resolution j j']

theorem resolution_ignoresJournal (r : Resolver) (fuel : Nat) :
    (∀ stack q c, (r.calculate fuel stack q c).IgnoresJournal) ∧
    (∀ stack q, (r.resolveWith fuel stack q).IgnoresJournal) ∧
    (∀ stack q, (r.read fuel stack q).IgnoresJournal) := by
  -- on the fuel: a calculation reads one level down, and resolving and reading at a level go
  -- through the calculations of that level
  have follows : ∀ fuel, (∀ stack q c, (r.calculate fuel stack q c).IgnoresJournal) →
      (∀ stack q c, (r.calculate fuel stack q c).IgnoresJournal) ∧
      (∀ stack q, (r.resolveWith fuel stack q).IgnoresJournal) ∧
      (∀ stack q, (r.read fuel stack q).IgnoresJournal) := by
    intro fuel calculation
    have resolution : ∀ stack q, (r.resolveWith fuel stack q).IgnoresJournal :=
      fun stack q => resolveWith_ignoresJournal (calculation stack q)
    exact ⟨calculation, resolution, fun stack q => read_ignoresJournal (resolution stack q)⟩
  induction fuel with
  | zero =>
    apply follows
    intro stack q c j j'
    rw [calculate_zero, calculate_zero]
  | succ fuel ih =>
    apply follows
    intro stack q c j j'
    by_cases onStack : q.id ∈ stack.map (·.id)
    · rw [calculate_on_stack onStack, calculate_on_stack onStack]
    · obtain ⟨k, entered⟩ := calculate_enters (r := r) (c := c) (j := j) onStack
      obtain ⟨k', entered'⟩ := calculate_enters (r := r) (c := c) (j := j') onStack
      rw [entered, entered', readEach_ignoresJournal (ih.2.2 (q :: stack)) _ k k']

theorem resolve_ignoresJournal (r : Resolver) (p : Property) : (r.resolve p).IgnoresJournal :=
  (resolution_ignoresJournal r r.fuel).2.1 [] p

end Resolver

theorem ValidationContext.value_ignoresJournal (cx : ValidationContext) (p : Property) :
    (cx.value p).IgnoresJournal := by
  rw [ValidationContext.value]
  refine (cx.resolver.resolve_ignoresJournal p).bind fun found => ?_
  split <;> exact ignoresJournal_pure _

namespace Severity

theorem rank_max (a b : Severity) : (a.max b).rank = Max.max a.rank b.rank := by
  cases a <;> cases b <;> rfl

theorem max_eq_left_or_right (a b : Severity) : a.max b = a ∨ a.max b = b := by
  unfold Severity.max
  split
  · exact .inr rfl
  · exact .inl rfl

theorem eq_information_of_rank {a : Severity} (lowest : a.rank ≤ information.rank) :
    a = .information := by
  cases a <;> simp_all [rank]

/-- Running the more serious of the severities of messages from `start` ends at a severity at
least as serious as `start` and as each message's, and it is `start` or one of theirs. -/
theorem foldl_max (messages : List Message) (start : Severity) :
    let worst := messages.foldl (fun s m => s.max m.severity) start
    start.rank ≤ worst.rank ∧ (∀ m ∈ messages, m.severity.rank ≤ worst.rank) ∧
      (worst = start ∨ ∃ m ∈ messages, m.severity = worst) := by
  induction messages generalizing start with
  | nil => simp
  | cons m rest ih =>
    obtain ⟨above, bounds, reached⟩ := ih (start.max m.severity)
    have raised := rank_max start m.severity
    simp only [List.foldl_cons, List.mem_cons, forall_eq_or_imp]
    refine ⟨by omega, ⟨by omega, bounds⟩, ?_⟩
    rcases reached with same | ⟨later, member, equal⟩
    · rcases max_eq_left_or_right start m.severity with kept | taken
      · exact .inl (same.trans kept)
      · exact .inr ⟨m, .inl rfl, (same.trans taken).symm⟩
    · exact .inr ⟨later, .inr member, equal⟩

/-- The worst severity of a non-empty list of messages, counted from the least serious one, is
the severity of one of them and at least that of each. -/
theorem foldl_max_information (messages : List Message) (nonempty : messages ≠ []) :
    let worst := messages.foldl (fun s m => s.max m.severity) .information
    (∃ m ∈ messages, m.severity = worst) ∧ ∀ m ∈ messages, m.severity.rank ≤ worst.rank := by
  obtain ⟨-, bounds, reached⟩ := foldl_max messages .information
  refine ⟨?_, bounds⟩
  rcases reached with lowest | found
  · -- nothing raised the start, so every message is of the least severity
    obtain ⟨m, member⟩ := List.exists_mem_of_ne_nil messages nonempty
    refine ⟨m, member, ?_⟩
    rw [lowest]
    exact eq_information_of_rank (lowest ▸ bounds m member)
  · exact found

end Severity

namespace ValidationRule

variable (cx : ValidationContext)

theorem validate_ignoresJournal (rule : ValidationRule) : (validate cx rule).IgnoresJournal := by
  induction rule with
  | both first last breakOnFirstError firstIgnores lastIgnores =>
    rw [validate]
    refine firstIgnores.bind fun messages => ?_
    split
    · exact ignoresJournal_pure _
    · exact lastIgnores.bind fun rest => ignoresJournal_pure _
  | either first last firstIgnores lastIgnores =>
    rw [validate]
    refine firstIgnores.bind fun one => lastIgnores.bind fun other => ?_
    split
    · exact ignoresJournal_pure _
    · exact ignoresJournal_pure _
  | customized inner template severity innerIgnores =>
    rw [validate]
    exact innerIgnores.bind fun messages => ignoresJournal_pure _
  | _ =>
    rw [validate]
    refine (cx.value_ignoresJournal _).bind fun found => ?_
    -- after the read, every branch is an answer computed from the value alone
    intro j j'
    repeat' split
    all_goals rfl

/-- The formula a rule tree stands for, given whether each leaf passes: `both` as conjunction,
`either` as disjunction, and `customized` as the rule inside. -/
def passesWith (leaf : ValidationRule → Bool) : ValidationRule → Bool
  | .both first last _ => first.passesWith leaf && last.passesWith leaf
  | .either first last => first.passesWith leaf || last.passesWith leaf
  | .customized inner _ _ => inner.passesWith leaf
  | rule => leaf rule

section Shapes

variable (first last : ValidationRule) (j : Journal)

theorem validate_both (breakOnFirstError : Bool) :
    (validate cx (.both first last breakOnFirstError)).result j =
      if breakOnFirstError then
        ((validate cx first).result j ++ (validate cx last).result j).take 1
      else (validate cx first).result j ++ (validate cx last).result j := by
  rw [validate]
  simp only [result_bind]
  have later := validate_ignoresJournal cx last ((validate cx first).after j) j
  cases breakOnFirstError with
  | false => simp [later]
  | true =>
    cases messages : (validate cx first).result j with
    | nil => simp [later]
    | cons m rest => simp

/-- The message `either` reports when both sides fail. -/
def eitherMessage (one other : List Message) : Message :=
  let severity := (one ++ other).foldl (fun s m => s.max m.severity) .information
  (Message.new severity "[{first}] or [{last}]").withProperty first.property.name
    |>.withArg "first" (joined one) |>.withArg "last" (joined other)

section Either

variable {first} {one other : List Message}

theorem eitherMessage_severity (other : List Message) (failing : one ≠ []) :
    (∃ m ∈ one ++ other, m.severity = (eitherMessage first one other).severity) ∧
      ∀ m ∈ one ++ other, m.severity.rank ≤ (eitherMessage first one other).severity.rank := by
  have worst := Severity.foldl_max_information (one ++ other) (by simp [failing])
  simpa [eitherMessage, Message.withProperty, Message.new] using worst

theorem eitherMessage_property :
    (eitherMessage first one other).property = some first.property.name := by
  simp [eitherMessage, Message.withProperty]

-- The texts of both sides are put in whatever braces they hold.
theorem eitherMessage_formatted :
    (eitherMessage first one other).formatted =
      "[" ++ joined one ++ "] or [" ++ joined other ++ "]" := by
  apply Message.formatted_combined
  · simp [eitherMessage, Message.withProperty, Message.new]
  · simp [eitherMessage, Message.arg?_withArg]
  · simp [eitherMessage, Message.arg?_withArg]

end Either

/-- What `either` reports for the messages `one` and `other` of its sides: nothing when a side
passes; otherwise one message, about the first side's property, as serious as the worst message
of both sides, whose text is the texts of each side joined by commas, in brackets. -/
def EitherReports (first : ValidationRule) (one other : List Message) : List Message → Prop
  | [] => one = [] ∨ other = []
  | [m] =>
    one ≠ [] ∧ other ≠ [] ∧
      (∃ x ∈ one ++ other, x.severity = m.severity) ∧
      (∀ x ∈ one ++ other, x.severity.rank ≤ m.severity.rank) ∧
      m.property = some first.property.name ∧
      m.formatted = "[" ++ ", ".intercalate (one.map (·.formatted)) ++ "] or [" ++
        ", ".intercalate (other.map (·.formatted)) ++ "]"
  | _ :: _ :: _ => False

theorem validate_either :
    (validate cx (.either first last)).result j =
      if ((validate cx first).result j).isEmpty || ((validate cx last).result j).isEmpty then []
      else [eitherMessage first ((validate cx first).result j) ((validate cx last).result j)] := by
  rw [validate]
  simp only [result_bind]
  rw [validate_ignoresJournal cx last ((validate cx first).after j) j]
  split <;> rfl

theorem validate_customized (inner : ValidationRule) (template : Option String)
    (severity : Option Severity) :
    (validate cx (.customized inner template severity)).result j =
      ((validate cx inner).result j).map fun m =>
        { m with template := template.getD m.template, severity := severity.getD m.severity } := by
  rw [validate]
  simp only [result_bind, result_pure]
  congr
  funext m
  cases template <;> cases severity <;> rfl

theorem validate_either_reports :
    EitherReports first ((validate cx first).result j) ((validate cx last).result j)
      ((validate cx (.either first last)).result j) := by
  rw [validate_either]
  split
  · rename_i passing
    simpa [EitherReports] using passing
  · rename_i failing
    have failingFirst : (validate cx first).result j ≠ [] := by simp_all
    have failingLast : (validate cx last).result j ≠ [] := by simp_all
    obtain ⟨worst, bounds⟩ := eitherMessage_severity ((validate cx last).result j) failingFirst
    exact ⟨failingFirst, failingLast, worst, bounds, eitherMessage_property,
      eitherMessage_formatted⟩

end Shapes

/-- A rule tree passes exactly when its formula holds of its leaves. -/
theorem validate_isEmpty (j : Journal) (rule : ValidationRule) :
    ((validate cx rule).result j).isEmpty =
      rule.passesWith fun leaf => ((validate cx leaf).result j).isEmpty := by
  induction rule with
  | both first last breakOnFirstError firstPasses lastPasses =>
    rw [validate_both, passesWith, ← firstPasses, ← lastPasses]
    cases (validate cx first).result j with
    | nil => cases breakOnFirstError <;> cases (validate cx last).result j <;> rfl
    | cons m rest => cases breakOnFirstError <;> rfl
  | either first last firstPasses lastPasses =>
    rw [validate_either, passesWith, ← firstPasses, ← lastPasses]
    split <;> simp_all
  | customized inner template severity innerPasses =>
    rw [validate_customized, passesWith, ← innerPasses]
    simp
  | _ => rfl

/-- Combined rules follow their formula: a tree passes exactly when the formula that reads
`both` as conjunction, `either` as disjunction and `customized` as the rule inside holds of its
leaves. `both` reports the messages of its first rule and then those of its last, or only the
first of them when it breaks on the first error; `either` reports as `EitherReports` says; and
`customized` keeps the number, order, arguments and properties of the messages inside, replacing
their template and severity where it sets them. -/
theorem combined_rules_follow_formula :
    (∀ cx rule j, ((validate cx rule).result j).isEmpty =
        rule.passesWith fun leaf => ((validate cx leaf).result j).isEmpty) ∧
    (∀ cx first last j, (validate cx (.both first last false)).result j =
        (validate cx first).result j ++ (validate cx last).result j) ∧
    (∀ cx first last j, (validate cx (.both first last true)).result j =
        ((validate cx first).result j ++ (validate cx last).result j).take 1) ∧
    (∀ cx first last j, EitherReports first ((validate cx first).result j)
        ((validate cx last).result j) ((validate cx (.either first last)).result j)) ∧
    (∀ cx inner template severity j,
      (validate cx (.customized inner template severity)).result j =
        ((validate cx inner).result j).map fun m =>
          { m with template := template.getD m.template, severity := severity.getD m.severity }) :=
  ⟨fun cx rule j => validate_isEmpty cx j rule,
    fun cx first last j => validate_both cx first last j false,
    fun cx first last j => validate_both cx first last j true,
    fun cx first last j => validate_either_reports cx first last j,
    fun cx inner template severity j => validate_customized cx j inner template severity⟩

end ValidationRule

end Schemata
