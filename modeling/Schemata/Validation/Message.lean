import Schemata.Error

/-!
Validation messages: a severity, a template with `{name}` placeholders, named arguments and
the property the message is about.

Formatting a template is one pass from left to right: text outside braces is kept; `{name}`
becomes the argument's value when it is set and stays as written otherwise; an opening brace
with no closing brace after it is kept with everything that follows. Inserted values are
never scanned again. Setting an argument that is already set replaces its value in place.
-/

namespace Schemata

/-- How serious a message is, from least to most. -/
inductive Severity where
  | information
  | warning
  | error
  deriving DecidableEq, Repr, Inhabited

namespace Severity

/-- The rank of a severity: information below warning below error. -/
def rank : Severity → Nat
  | .information => 0
  | .warning => 1
  | .error => 2

def max (a b : Severity) : Severity := if a.rank < b.rank then b else a

def name : Severity → String
  | .information => "information"
  | .warning => "warning"
  | .error => "error"

def debug : Severity → String
  | .information => "Information"
  | .warning => "Warning"
  | .error => "Error"

def ofName? : String → Option Severity
  | "information" => some .information
  | "warning" => some .warning
  | "error" => some .error
  | _ => none

end Severity

structure Message where
  severity : Severity
  template : String
  args : List (String × String) := []
  property : Option String := none

/-- Dropping the characters before the first one that satisfies `p` never lengthens a list. -/
theorem length_dropWhile_le {α : Type} (p : α → Bool) :
    ∀ l : List α, (l.dropWhile p).length ≤ l.length
  | [] => Nat.le_refl _
  | a :: l => by
    rw [List.dropWhile_cons]
    split
    · exact Nat.le_succ_of_le (length_dropWhile_le p l)
    · exact Nat.le_refl _

/-- The placeholders of a template replaced by the values `arg?` gives them. -/
def interpolate (arg? : String → Option String) : List Char → List Char
  | [] => []
  | c :: rest =>
    if c = '{' then
      match h : rest.dropWhile (· != '}') with
      | [] => '{' :: rest
      | _ :: after =>
        let name := rest.takeWhile (· != '}')
        have : after.length < rest.length + 1 := by
          have := length_dropWhile_le (· != '}') rest
          rw [h] at this
          simp at this
          omega
        (match arg? (String.ofList name) with
         | some v => v.toList
         | none => '{' :: name ++ ['}']) ++ interpolate arg? after
    else c :: interpolate arg? rest
termination_by cs => cs.length

namespace Message

def new (severity : Severity) (template : String) : Message := { severity, template }

def arg? (m : Message) (name : String) : Option String := (m.args.find? (·.1 == name)).map (·.2)

/-- Sets an argument: in place when it is set, at the end otherwise. -/
def withArg (m : Message) (name value : String) : Message :=
  if m.args.any (·.1 == name) then
    { m with args := m.args.map fun a => if a.1 == name then (name, value) else a }
  else
    { m with args := m.args ++ [(name, value)] }

/-- Names the property the message is about, also as the argument `propertyName`. -/
def withProperty (m : Message) (name : String) : Message :=
  { m with property := some name }.withArg "propertyName" name

def withTemplate (m : Message) (template : String) : Message := { m with template }

def withSeverity (m : Message) (severity : Severity) : Message := { m with severity }

def isError (m : Message) : Bool := m.severity == .error

def formatted (m : Message) : String := String.ofList (interpolate m.arg? m.template.toList)

def debug (m : Message) : String :=
  debugRecord "Message"
    [("severity", m.severity.debug), ("template", quoteText m.template),
     ("args", "[" ++ ", ".intercalate (m.args.map fun a =>
        "(" ++ quoteText a.1 ++ ", " ++ quoteText a.2 ++ ")") ++ "]"),
     ("property", match m.property with | some p => "Some(" ++ quoteText p ++ ")" | none => "None")]

end Message

end Schemata
