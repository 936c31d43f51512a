/-!
Events reported while the library works, and fresh identities.

Resolution, rule lookup, parsing, synthesis and validation report what they do as events: a
level, the reporting module, a message and named fields. Computations that report events or
create objects with an identity of their own run in `Traced`, which keeps the events in order
and hands out identities one after another.
-/

namespace Schemata

inductive Level where
  | trace
  | debug
  | warn
  deriving DecidableEq, Repr

namespace Level

def name : Level → String
  | .trace => "TRACE"
  | .debug => "DEBUG"
  | .warn => "WARN"

end Level

structure Event where
  level : Level
  target : String
  message : String
  fields : List (String × String)
  deriving Repr

/-- The events reported so far, and the next fresh identity. -/
structure Journal where
  events : Array Event := #[]
  nextObject : Nat := 0

/-- Computations that report events and create objects. -/
abbrev Traced := StateM Journal

def emit (level : Level) (target message : String) (fields : List (String × String)) :
    Traced Unit :=
  modify fun j => { j with events := j.events.push ⟨level, target, message, fields⟩ }

def freshObject : Traced Nat :=
  modifyGet fun j => (j.nextObject, { j with nextObject := j.nextObject + 1 })

end Schemata
