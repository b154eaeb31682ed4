import Casebook.Selections

/-!
# Casebook.Pattern.Basic

Patterns: descriptions of the shape a value must have.  Literals, object shapes and tuples
describe structure, combinators put patterns together, and a selection captures the part of
the value that stands at its place.

* `Pattern.isIrrefutable` — whether a pattern matches every value, as far as its form tells:
  predicates and kinds are never taken to match everything.
-/

namespace Casebook

/-- A test of values. -/
abbrev Predicate := Value → Bool

/-- A structural pattern. -/
inductive Pattern where
  /-- Values strictly equal to this one. -/
  | literal (v : Value)
  | wildcard
  /-- What `inner` matches (anything if there is none), captured under `key`. -/
  | select (key : SelectionKey) (inner : Option Pattern)
  /-- Objects whose listed properties match; others are ignored. -/
  | object (fields : List (String × Pattern))
  /-- Arrays of the same length, matching place by place. -/
  | tuple (items : List Pattern)
  /-- Arrays whose every element matches. -/
  | each (inner : Pattern)
  /-- What `inner` does not match.  Captures nothing. -/
  | not (inner : Pattern)
  /-- What every part matches. -/
  | all (parts : List Pattern)
  /-- What some part matches; the first that does captures. -/
  | any (parts : List Pattern)
  /-- `undefined`, an absent property, or what `inner` matches. -/
  | optional (inner : Pattern)
  | kind (k : Kind)
  | when (test : Predicate)

namespace Pattern

instance : Inhabited Pattern := ⟨wildcard⟩

/-- What is `null` or `undefined`. -/
def nullish : Pattern := any [kind .null, kind .undefined]

/-- Whether a pattern is an `optional` one; an object shape accepts the absence of a
property only then. -/
def isOptional : Pattern → Bool
  | optional _ => true
  | _ => false

/-! ## patterns that match everything -/

mutual

/-- Whether the form of a pattern shows that it matches every value. -/
def isIrrefutable : Pattern → Bool
  | wildcard | select _ none => true
  | select _ (some p) | optional p => isIrrefutable p
  | all ps => allIrrefutable ps
  | any ps => anyIrrefutable ps
  | literal _ | object _ | tuple _ | each _ | not _ | kind _ | when _ => false

def allIrrefutable : List Pattern → Bool
  | [] => true
  | p :: ps => isIrrefutable p && allIrrefutable ps

def anyIrrefutable : List Pattern → Bool
  | [] => false
  | p :: ps => isIrrefutable p || anyIrrefutable ps

end

end Pattern

end Casebook
