import Mathlib.Data.List.TakeWhile
import Schemata.Proofs.Templates

/-!
Filling a template, stated by the shape of the template.

`Filled` is the reference reading of one pass from left to right: a text without an opening
brace stays as it is; an opening brace with no closing brace after it stays, with everything
after it; otherwise the text up to the first opening brace stays, the placeholder up to the next
closing brace becomes its text (the argument's value, or the placeholder as written), and the
filling goes on after that closing brace. Nothing put in is read again. A placeholder name may
hold an opening brace: only the first closing brace ends it.

`formatted` is exactly that reading: every template has one filled text, and it is the formatted
message. When no placeholder the pass meets has an argument, the message is its template. Setting
arguments one after another keeps their names distinct, and a name reads the last value set
for it.
-/

namespace Schemata

theorem split_at_first (c : Char) : ∀ s : List Char,
    c ∉ s ∨ ∃ before after, s = before ++ c :: after ∧ c ∉ before
  | [] => .inl List.not_mem_nil
  | d :: rest => by
    by_cases same : d = c
    · exact .inr ⟨[], rest, by rw [same]; rfl, List.not_mem_nil⟩
    · rcases split_at_first c rest with absent | ⟨before, after, split, absentBefore⟩
      · exact .inl (by simp [Ne.symm same, absent])
      · exact .inr ⟨d :: before, after, by rw [split]; rfl, by simp [Ne.symm same, absentBefore]⟩

section Filling

variable (arg? : String → Option String)

/-- The filled texts of templates, in the shape of one pass from left to right. -/
inductive Filled : List Char → List Char → Prop where
  | plain {text : List Char} : '{' ∉ text → Filled text text
  | unterminated {literal rest : List Char} : '{' ∉ literal → '}' ∉ rest →
      Filled (literal ++ '{' :: rest) (literal ++ '{' :: rest)
  | placeholder {literal name rest out : List Char} : '{' ∉ literal → '}' ∉ name →
      Filled rest out →
      Filled (literal ++ '{' :: (name ++ '}' :: rest)) (literal ++ (placeholderText arg? name ++ out))

/-- The names of the placeholders of a template, in the order the pass meets them. -/
inductive PlaceholderOf : List Char → List Char → Prop where
  | here {literal name rest : List Char} : '{' ∉ literal → '}' ∉ name →
      PlaceholderOf (literal ++ '{' :: (name ++ '}' :: rest)) name
  | later {literal name rest other : List Char} : '{' ∉ literal → '}' ∉ name →
      PlaceholderOf rest other → PlaceholderOf (literal ++ '{' :: (name ++ '}' :: rest)) other

theorem interpolate_plain {text : List Char} (noOpen : '{' ∉ text) :
    interpolate arg? text = text := by
  simpa [interpolate.eq_1] using interpolate_text arg? noOpen []

theorem interpolate_unterminated {rest : List Char} (noClose : '}' ∉ rest) :
    interpolate arg? ('{' :: rest) = '{' :: rest := by
  have unclosed : rest.dropWhile (· != '}') = [] := by
    rw [List.dropWhile_eq_nil_iff]
    intro c member
    simpa using ne_of_mem_of_not_mem member noClose
  rw [interpolate.eq_2, if_pos rfl]
  split
  · rfl
  · rename_i stopped
    rw [unclosed] at stopped
    cases stopped

-- By induction on the length: the pass goes on only after a closing brace.
theorem filled_interpolate (text : List Char) : Filled arg? text (interpolate arg? text) := by
  rcases split_at_first '{' text with noOpen | ⟨literal, rest, rfl, noOpen⟩
  · rw [interpolate_plain arg? noOpen]
    exact .plain noOpen
  · rw [interpolate_text arg? noOpen]
    rcases split_at_first '}' rest with noClose | ⟨name, after, rfl, noClose⟩
    · rw [interpolate_unterminated arg? noClose]
      exact .unterminated noOpen noClose
    · rw [interpolate_placeholder arg? noClose]
      exact .placeholder noOpen noClose (filled_interpolate after)
termination_by text.length
decreasing_by
  subst_vars
  simp only [List.length_append, List.length_cons]
  omega

theorem Filled.eq_interpolate {text out : List Char} (filled : Filled arg? text out) :
    out = interpolate arg? text := by
  induction filled with
  | plain noOpen => rw [interpolate_plain arg? noOpen]
  | unterminated noOpen noClose =>
    rw [interpolate_text arg? noOpen, interpolate_unterminated arg? noClose]
  | placeholder noOpen noClose _ rest =>
    rw [interpolate_text arg? noOpen, interpolate_placeholder arg? noClose, rest]

theorem filled_iff {text out : List Char} : Filled arg? text out ↔ out = interpolate arg? text :=
  ⟨Filled.eq_interpolate arg?, fun filled => filled ▸ filled_interpolate arg? text⟩

-- A placeholder without an argument is put back as written, so each step rebuilds what it read.
theorem interpolate_unset {text : List Char}
    (unset : ∀ name, PlaceholderOf text name → arg? (String.ofList name) = none) :
    interpolate arg? text = text := by
  have filled := filled_interpolate arg? text
  generalize interpolate arg? text = out at filled
  induction filled with
  | plain => rfl
  | unterminated => rfl
  | @placeholder literal name rest out noOpen noClose _ filledRest =>
    have kept : placeholderText arg? name = '{' :: name ++ ['}'] := by
      rw [placeholderText, unset name (.here noOpen noClose)]
    rw [kept, filledRest fun other later => unset other (.later noOpen noClose later)]
    simp

end Filling

namespace Message

/-- Sets arguments one after another. -/
def withArgs (m : Message) (calls : List (String × String)) : Message :=
  calls.foldl (fun m call => m.withArg call.1 call.2) m

@[simp] theorem withArgs_nil (m : Message) : m.withArgs [] = m := rfl

@[simp] theorem withArgs_cons (m : Message) (call : String × String)
    (calls : List (String × String)) :
    m.withArgs (call :: calls) = (m.withArg call.1 call.2).withArgs calls := rfl

theorem names_withArg {m : Message} (distinct : (m.args.map (·.1)).Nodup) (name value : String) :
    ((m.withArg name value).args.map (·.1)).Nodup := by
  unfold withArg
  split
  · -- in place: the argument set keeps its name
    have sameNames : (m.args.map fun a => if (a.1 == name) = true then (name, value) else a).map
        (·.1) = m.args.map (·.1) := by
      rw [List.map_map]
      refine List.map_congr_left fun a _ => ?_
      by_cases named : a.1 = name <;> simp [named]
    simpa only [sameNames] using distinct
  · rename_i absent
    have fresh : name ∉ m.args.map (·.1) := by
      simp only [List.mem_map, not_exists, not_and]
      intro a member named
      exact absent (List.any_eq_true.mpr ⟨a, member, by simp [named]⟩)
    rw [List.map_append, List.nodup_append]
    refine ⟨distinct, by simp, fun a member b added same => fresh ?_⟩
    rw [List.map_cons, List.map_nil, List.mem_singleton] at added
    rwa [same, added] at member

theorem names_withArgs {m : Message} (distinct : (m.args.map (·.1)).Nodup) :
    ∀ calls : List (String × String), ((m.withArgs calls).args.map (·.1)).Nodup
  | [] => distinct
  | call :: calls => names_withArgs (names_withArg distinct call.1 call.2) calls

-- The last call for a name is the first one met in the reversed calls.
theorem arg?_withArgs (m : Message) (name : String) :
    ∀ calls : List (String × String),
      (m.withArgs calls).arg? name =
        ((calls.reverse.find? (·.1 == name)).map (·.2)).or (m.arg? name)
  | [] => by simp
  | call :: calls => by
    rw [withArgs_cons, arg?_withArgs, arg?_withArg, List.reverse_cons, List.find?_append,
      Option.map_or, Option.or_assoc]
    congr 1
    by_cases named : name = call.1
    · simp [named]
    · simp [named, Ne.symm named]

end Message

/-- Formatting is the one pass from left to right: the formatted text is the one filled text
of the template, whatever the arguments; a template none of whose placeholders has an argument
is its own text; and arguments set one after another from a new message have distinct names,
each reading the last value set for it. -/
theorem formatted_fills_in_one_pass :
    (∀ (m : Message) (out : List Char),
      Filled m.arg? m.template.toList out ↔ out = m.formatted.toList) ∧
    (∀ m : Message, (∀ name, PlaceholderOf m.template.toList name →
      m.arg? (String.ofList name) = none) → m.formatted = m.template) ∧
    (∀ (severity : Severity) (template : String) (calls : List (String × String)),
      (((Message.new severity template).withArgs calls).args.map (·.1)).Nodup ∧
      ∀ name, ((Message.new severity template).withArgs calls).arg? name =
        (calls.reverse.find? (·.1 == name)).map (·.2)) := by
  refine ⟨fun m out => ?_, fun m unset => ?_, fun severity template calls => ⟨?_, fun name => ?_⟩⟩
  · rw [filled_iff, Message.formatted, String.toList_ofList]
  · rw [Message.formatted, interpolate_unset m.arg? unset, String.ofList_toList]
  · exact Message.names_withArgs (by simp [Message.new]) calls
  · rw [Message.arg?_withArgs]
    simp [Message.new, Message.arg?]

/-- A message with no arguments formats to its template, placeholders and all. -/
theorem unset_placeholders_stay :
    (Message.new .error "{a} and {b}").formatted = "{a} and {b}" :=
  formatted_fills_in_one_pass.2.1 _ fun _ _ => rfl

end Schemata
