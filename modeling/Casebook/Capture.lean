import Casebook.Value.Equality

/-!
# Casebook.Capture

What a selection holds.  Mostly that is a part of the subject, identity and all; but
matching every element of an array gathers the elements' captures into a column, and several
named captures are handed to a case as one record.  Columns and records are made for the
occasion: nothing is identical to them, so they need no identity until they are turned into
values of their own.

What is identical to a capture is said by `Capture.isSame` alone.  `Capture.toValue` shows the
contents.  It numbers columns and records from the least identity that this one capture leaves
free, so the numbers may well be in use elsewhere, and comparing them with identities of other
values means nothing.

* `Capture.toValue` — the contents of the capture, as a value;
* `Capture.isSame` — strict equality with a value, which only a part can have.
-/

namespace Casebook

/-- A captured part of a subject, or captures put together. -/
inductive Capture where
  | part (v : Value)
  | column (entries : List Capture)
  | record (fields : List (String × Capture))

namespace Capture

/-- Nothing was there to capture. -/
def undefined : Capture := part .undefined

instance : Inhabited Capture := ⟨undefined⟩

mutual

/-- The least identity above all those in the captured parts. -/
def supply : Capture → Nat
  | part v => v.supply
  | column entries => supplyEntries entries
  | record fields => supplyFields fields

def supplyEntries : List Capture → Nat
  | [] => 0
  | c :: cs => max c.supply (supplyEntries cs)

def supplyFields : List (String × Capture) → Nat
  | [] => 0
  | (_, c) :: fs => max c.supply (supplyFields fs)

end

mutual

/-- The capture as a value, drawing identities from `next` on, and the next one left. -/
def build : Capture → Nat → Value × Nat
  | part v, next => (v, next)
  | column entries, next =>
      let (vs, next) := buildEntries entries next
      (.array next vs, next + 1)
  | record fields, next =>
      let (ps, next) := buildFields fields next
      (.object next ps, next + 1)

def buildEntries : List Capture → Nat → List Value × Nat
  | [], next => ([], next)
  | c :: cs, next =>
      let (v, next) := c.build next
      let (vs, next) := buildEntries cs next
      (v :: vs, next)

def buildFields : List (String × Capture) → Nat → List (String × Value) × Nat
  | [], next => ([], next)
  | (k, c) :: fs, next =>
      let (v, next) := c.build next
      let (ps, next) := buildFields fs next
      ((k, v) :: ps, next)

end

/-- The contents of the capture, as a value.  Its columns and records are told apart from one
another and from the captured parts, but not from anything outside the capture. -/
def toValue (c : Capture) : Value := (c.build c.supply).1

/-- Strict equality with a value that exists apart from the capture. -/
def isSame (v : Value) : Capture → Bool
  | part w => w.strictEquals v
  | _ => false

/-- Structural equality, each capture as a value of its own. -/
def equals (c d : Capture) : Bool :=
  let (v, next) := c.build (max c.supply d.supply)
  v.equals (d.build next).1

end Capture

end Casebook
