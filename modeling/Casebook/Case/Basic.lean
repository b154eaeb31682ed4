import Casebook.Pattern.Census
import Casebook.Pattern.Match
import Casebook.Pattern.Text

/-!
# Casebook.Case.Basic

A case: alternative patterns, guards on the whole subject, and a handler that turns what was
captured into a result.

* `Case.match?` — the captures of the first alternative that matches, if the guards hold;
* `Case.isFallback` — whether the form of the case shows that it takes every subject.
-/

namespace Casebook

universe u

/-- Computes a result from the captures and the subject. -/
abbrev Handler (α : Type u) := Selections → Value → α

/-- A declared case.  Every pattern keeps the rules of selection. -/
structure Case (α : Type u) where
  id : CaseId
  patterns : List Pattern
  guards : List Predicate
  handler : Handler α
  valid : ∀ p ∈ patterns, p.fault? = none

namespace Case

variable {α : Type u}

/-- The names captured more than once by one of the patterns. -/
def duplicates (c : Case α) : List String := c.patterns.flatMap Pattern.duplicates

/-- Whether the case shows by its form that it takes every subject. -/
def isFallback (c : Case α) : Bool := c.guards.isEmpty && c.patterns.any Pattern.isIrrefutable

/-- The captures of the first alternative that matches.  The guards see the whole subject,
and are asked only when there is such an alternative. -/
def match? (c : Case α) (subject : Value) : Option Selections :=
  match c.patterns.findSome? fun p => p.match? subject with
  | some s => if c.guards.all fun guard => guard subject then some s else none
  | none => none

/-- The result of the case. -/
def run (c : Case α) (s : Selections) (subject : Value) : α := c.handler s subject

/-- The text of a case in diagnostics. -/
def inspect (c : Case α) : String :=
  "Case \x7b id: CaseId \x7b kind: " ++ c.id.kind.name ++ ", key: " ++ Text.quoted c.id.key ++
    " \x7d, patterns: [" ++ Value.commaSeparated (c.patterns.map Pattern.inspect) ++
    "], guards: " ++ toString c.guards.length ++ ", .. \x7d"

end Case

end Casebook
