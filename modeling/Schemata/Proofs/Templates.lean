import Schemata.Validation.Message

/-!
Arguments of messages, and filling templates in one pass from left to right.

Setting an argument gives it the new value and leaves the other arguments, the template, the
severity and the property alone.

Text without an opening brace is copied as it is, and a placeholder `{name}` whose name holds no
closing brace becomes the argument's value, or stays as written when the argument is not set;
either way filling goes on after the placeholder. The value is put in as it is and never scanned
again, so braces inside it stay. For the template of a combined message, `[{first}] or
[{last}]`, the text is the two arguments in brackets, whatever they hold.
-/

namespace Schemata

section Interpolate

variable (arg? : String → Option String)

theorem interpolate_cons_of_ne {c : Char} (text : c ≠ '{') (rest : List Char) :
    interpolate arg? (c :: rest) = c :: interpolate arg? rest := by
  rw [interpolate, if_neg text]

theorem interpolate_text {literal : List Char} (noOpen : '{' ∉ literal) (rest : List Char) :
    interpolate arg? (literal ++ rest) = literal ++ interpolate arg? rest := by
  induction literal with
  | nil => rfl
  | cons c more ih =>
    rw [List.mem_cons, not_or] at noOpen
    rw [List.cons_append, interpolate_cons_of_ne arg? (Ne.symm noOpen.1), ih noOpen.2,
      List.cons_append]

theorem dropWhile_name {name : List Char} (noClose : '}' ∉ name) (rest : List Char) :
    (name ++ '}' :: rest).dropWhile (· != '}') = '}' :: rest := by
  induction name with
  | nil => simp
  | cons c more ih =>
    rw [List.mem_cons, not_or] at noClose
    rw [List.cons_append, List.dropWhile_cons_of_pos (by simpa using Ne.symm noClose.1),
      ih noClose.2]

theorem takeWhile_name {name : List Char} (noClose : '}' ∉ name) (rest : List Char) :
    (name ++ '}' :: rest).takeWhile (· != '}') = name := by
  induction name with
  | nil => simp
  | cons c more ih =>
    rw [List.mem_cons, not_or] at noClose
    rw [List.cons_append, List.takeWhile_cons_of_pos (by simpa using Ne.symm noClose.1),
      ih noClose.2]

/-- The text a placeholder becomes: the argument's value, or the placeholder as written. -/
def placeholderText (name : List Char) : List Char :=
  match arg? (String.ofList name) with
  | some v => v.toList
  | none => '{' :: name ++ ['}']

-- The value is put in front of the filled rest, not scanned with it.
theorem interpolate_placeholder {name : List Char} (noClose : '}' ∉ name) (rest : List Char) :
    interpolate arg? ('{' :: (name ++ '}' :: rest)) =
      placeholderText arg? name ++ interpolate arg? rest := by
  rw [interpolate.eq_2, if_pos rfl]
  split
  · rename_i stopped
    rw [dropWhile_name noClose] at stopped
    cases stopped
  · rename_i close after stopped
    rw [dropWhile_name noClose] at stopped
    cases stopped
    rw [takeWhile_name noClose]
    rfl

end Interpolate

namespace Message

section Arguments

variable (m : Message) (name value : String)

/-- The arguments after setting `name` to `value` where it stands. -/
def replaced (args : List (String × String)) : List (String × String) :=
  args.map fun a => if (a.1 == name) = true then (name, value) else a

theorem lookup_replaced_ne {other : String} (different : other ≠ name)
    (args : List (String × String)) :
    ((replaced name value args).find? (·.1 == other)).map (·.2) =
      (args.find? (·.1 == other)).map (·.2) := by
  induction args with
  | nil => rfl
  | cons a rest ih =>
    simp only [replaced, List.map_cons, List.find?_cons]
    by_cases named : a.1 = name
    · have hit : (a.1 == name) = true := by simp [named]
      have missed : (name == other) = false := by simpa using Ne.symm different
      have missedBefore : (a.1 == other) = false := by simpa [named] using Ne.symm different
      simp only [hit, if_true, missed, missedBefore]
      exact ih
    · have miss : (a.1 == name) = false := by simpa using named
      simp only [miss, Bool.false_eq_true, if_false]
      cases (a.1 == other)
      · exact ih
      · rfl

theorem lookup_replaced (other : String) {args : List (String × String)}
    (present : args.any (·.1 == name) = true) :
    ((replaced name value args).find? (·.1 == other)).map (·.2) =
      if other = name then some value else (args.find? (·.1 == other)).map (·.2) := by
  induction args with
  | nil => cases present
  | cons a rest ih =>
    simp only [replaced, List.map_cons, List.find?_cons]
    by_cases named : a.1 = name
    · -- the first argument of that name takes the value
      have hit : (a.1 == name) = true := by simp [named]
      simp only [hit, if_true]
      by_cases same : other = name
      · simp [same]
      · have missed : (name == other) = false := by simpa using Ne.symm same
        have missedBefore : (a.1 == other) = false := by simpa [named] using Ne.symm same
        simp only [missed, missedBefore, same, if_false]
        have later := lookup_replaced_ne name value same rest
        simpa [replaced, same] using later
    · have miss : (a.1 == name) = false := by simpa using named
      have stillPresent : rest.any (·.1 == name) = true := by simpa [miss] using present
      simp only [miss, Bool.false_eq_true, if_false]
      cases matched : (a.1 == other)
      · simpa [replaced] using ih stillPresent
      · have same : other ≠ name := by
          intro equal
          simp_all
        simp [same]

theorem arg?_withArg (other : String) :
    (m.withArg name value).arg? other = if other = name then some value else m.arg? other := by
  unfold withArg arg?
  split
  · rename_i present
    exact lookup_replaced name value other present
  · rename_i absent
    -- the argument is added after every argument already set
    rw [List.find?_append]
    by_cases same : other = name
    · subst same
      have unset : m.args.find? (·.1 == other) = none := by
        apply List.find?_eq_none.mpr
        intro a member named
        exact absent (List.any_eq_true.mpr ⟨a, member, named⟩)
      simp [unset]
    · simp [same, Ne.symm same]

@[simp] theorem withArg_template : (m.withArg name value).template = m.template := by
  unfold withArg
  split <;> rfl

@[simp] theorem withArg_severity : (m.withArg name value).severity = m.severity := by
  unfold withArg
  split <;> rfl

@[simp] theorem withArg_property : (m.withArg name value).property = m.property := by
  unfold withArg
  split <;> rfl

end Arguments

-- The names of the arguments of a combined message, and its template in pieces.
theorem combined_template :
    "[{first}] or [{last}]".toList =
      "[".toList ++ ('{' :: ("first".toList ++ '}' :: ("] or [".toList ++
        ('{' :: ("last".toList ++ '}' :: ("]".toList ++ [])))))) := by
  decide

/-- A message of the template `[{first}] or [{last}]` with both arguments set reads as the two
values in brackets, whatever braces they hold. -/
theorem formatted_combined {m : Message} {first last : String}
    (template : m.template = "[{first}] or [{last}]") (firstSet : m.arg? "first" = some first)
    (lastSet : m.arg? "last" = some last) :
    m.formatted = "[" ++ first ++ "] or [" ++ last ++ "]" := by
  have noOpen : ∀ s ∈ ["[", "] or [", "]"], '{' ∉ s.toList := by decide
  have noClose : ∀ s ∈ ["first", "last"], '}' ∉ s.toList := by decide
  rw [formatted, template, combined_template,
    interpolate_text _ (noOpen "[" (by simp)), interpolate_placeholder _ (noClose "first" (by simp)),
    interpolate_text _ (noOpen "] or [" (by simp)),
    interpolate_placeholder _ (noClose "last" (by simp)),
    interpolate_text _ (noOpen "]" (by simp))]
  simp only [placeholderText, String.ofList_toList, firstSet, lastSet, interpolate.eq_1,
    List.append_nil, String.ofList_append, String.append_assoc]

end Message

end Schemata
