import Casebook.Case.Basic

/-!
# Casebook.Case.Draft

Cases as they are declared, before any check, and the checks that make a case of them.  The
first check that fails gives the error, and the error names the case.

* `CaseDraft.build` — the case, or the first mistake in its declaration;
* `CaseDraft.eq_of_build` — a case has the patterns, guards and handler of its declaration.
-/

namespace Casebook

universe u

/-- The declaration of a case.  Its result comes from a handler or is a constant. -/
structure CaseDraft (α : Type u) where
  id : CaseId
  patterns : List Pattern := []
  guards : List Predicate := []
  handler : Option (Handler α) := none
  constant : Option α := none

namespace CaseDraft

variable {α : Type u}

/-- What is wrong with the patterns and guards of a form. -/
def formFault? (d : CaseDraft α) : Option MatchError.Cause :=
  match d.id.kind with
  | .withPatterns => if d.patterns.isEmpty then some (.missingPattern d.id.kind) else none
  | .whenHolds => if d.guards.isEmpty then some .missingPredicate else none
  | .otherwise =>
      if d.patterns.isEmpty && d.guards.isEmpty then none else some .unexpectedPattern

/-- The one handler of a declaration. -/
def theHandler (d : CaseDraft α) : Except MatchError.Cause (Handler α) :=
  match d.handler, d.constant with
  | some _, some _ => .error (.handlerConflict d.id.kind)
  | none, none => .error (.missingHandler d.id.kind)
  | some handler, none => .ok handler
  | none, some result => .ok fun _ _ => result

/-- The patterns of the case: without any, it takes every subject that its guards accept. -/
def alternatives (d : CaseDraft α) : List Pattern :=
  if d.patterns.isEmpty then [.wildcard] else d.patterns

/-- Check a declaration: first its patterns and guards, then its handler, then the rules of
selection. -/
def build (d : CaseDraft α) : Except MatchError (Case α) :=
  match d.formFault? with
  | some cause => fail cause
  | none =>
      match d.theHandler with
      | .error cause => fail cause
      | .ok handler =>
          match h : d.alternatives.findSome? Pattern.fault? with
          | some cause => fail cause
          | none =>
              .ok ⟨d.id, d.alternatives, d.guards, handler, List.findSome?_eq_none_iff.mp h⟩
where
  fail (cause : MatchError.Cause) : Except MatchError (Case α) :=
    .error ⟨cause, some d.id.label⟩

/-- What a case takes over from its declaration. -/
theorem eq_of_build {d : CaseDraft α} {c : Case α} (h : d.build = .ok c) :
    c.id = d.id ∧ c.patterns = d.alternatives ∧ c.guards = d.guards ∧
      d.theHandler = .ok c.handler := by
  unfold build at h
  split at h
  case h_1 => cases h
  case h_2 =>
      split at h
      case h_1 => cases h
      case h_2 handler hh =>
          split at h
          case h_1 => cases h
          case h_2 =>
              obtain rfl := Except.ok.inj h
              exact ⟨rfl, rfl, rfl, hh⟩

end CaseDraft

end Casebook
