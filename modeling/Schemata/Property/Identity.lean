import Schemata.Property.Basic

/-!
Property identities over a whole run of the library.

Identities come from one counter of 32 bits for the whole process. Taking one reads the counter
and adds one to it, wrapping past the largest value, and only then refuses that largest value
with a panic: by then the counter is back at zero.

A run is any sequence of the calls that declare a property or derive a handle from one made
before, with every panic caught and the run going on. It keeps each handle it made, in order;
a derived handle names its source by its place in that list. Declaring takes an identity;
attaching metadata, configuring and cloning keep the identity of the source.
-/

namespace Schemata

/-- The largest value of the identity counter (`u32::MAX`), which is never handed out. -/
def lastIndex : UInt32 := 4294967295

/-- Taking an identity: it is the counter's value, and the counter moves on by one, wrapping
past `lastIndex`. `lastIndex` itself is refused by the assertion's panic, which comes after the
counter has moved. -/
def nextId (counter : UInt32) : Except String Nat × UInt32 :=
  (if counter = lastIndex then .error "Too many properties declared" else .ok counter.toNat,
    counter + 1)

/-- What a call that makes a handle gives: the handle, the error it reports, or the panic it
raises. -/
inductive Outcome where
  | handle (p : Property)
  | refused (e : SchemaError)
  | panicked (message : String)

def Outcome.ofExcept : Except SchemaError Property → Outcome
  | .ok p => .handle p
  | .error e => .refused e

/-- A property without metadata under the next identity, with the counter after the call: the
typed and the untyped constructor alike. -/
def Property.declare (name : String) (type : ValueType) (counter : UInt32) : Outcome × UInt32 :=
  match nextId counter with
  | (.ok id, next) => (.handle { id, name, type }, next)
  | (.error message, next) => (.panicked message, next)

/-- `build` on the library's counter: the first failed check, which takes no identity, or the
property under the next identity. -/
def PropertyBuilder.declare (b : PropertyBuilder) (counter : UInt32) : Outcome × UInt32 :=
  match b.error with
  | some e => (.refused e, counter)
  | none =>
    match nextId counter with
    | (.ok id, next) => (.ofExcept (b.build id), next)
    | (.error message, next) => (.panicked message, next)

inductive Call : Type 1 where
  | new (name : String) (type : ValueType)
  | build (builder : PropertyBuilder)
  /-- Metadata attached to the handle at place `source`, unnamed for `none`. -/
  | attach (source : Nat) (name : Option String) (m : Metadata)
  /-- A read-modify-write of one kind of metadata on the handle at place `source`. -/
  | configure {α : Type} (source : Nat) (T : MetadataType α) (default : α) (f : α → α)
  /-- A copy of the handle at place `source`, or a typed view of it. -/
  | clone (source : Nat)

/-- Whether a call takes an identity: a declaration does, and a build whose checks passed. -/
def Call.takesId : Call → Bool
  | .new .. => true
  | .build b => b.error.isNone
  | _ => false

def idsTaken (calls : List Call) : Nat := calls.countP Call.takesId

/-- A run of the library so far: the identity counter, and every handle made, in order. -/
structure Run where
  counter : UInt32 := 0
  handles : List Property := []

namespace Run

def start : Run := {}

/-- Keeps the handle a call made; an error or a caught panic keeps nothing. -/
def keep (r : Run) : Outcome → Run
  | .handle p => { r with handles := r.handles ++ [p] }
  | _ => r

def take (r : Run) (call : UInt32 → Outcome × UInt32) : Run :=
  let result := call r.counter
  keep { r with counter := result.2 } result.1

def derive (r : Run) (source : Nat) (f : Property → Outcome) : Run :=
  match r.handles[source]? with
  | some p => r.keep (f p)
  | none => r

def step (r : Run) : Call → Run
  | .new name type => r.take (Property.declare name type)
  | .build b => r.take b.declare
  | .attach source name m => r.derive source fun p => .ofExcept (p.attach name m)
  | .configure source T default f => r.derive source fun p => .ofExcept (p.configure T default f)
  | .clone source => r.derive source .handle

def run (r : Run) (calls : List Call) : Run := calls.foldl step r

@[simp] theorem run_nil (r : Run) : r.run [] = r := rfl

@[simp] theorem run_cons (r : Run) (c : Call) (calls : List Call) :
    r.run (c :: calls) = (r.step c).run calls := rfl

theorem run_append (r : Run) (calls more : List Call) :
    r.run (calls ++ more) = (r.run calls).run more := List.foldl_append

end Run

end Schemata
