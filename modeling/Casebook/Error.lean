/-!
# Casebook.Error

What can go wrong with cases and states, and the identities by which cases are told apart, in
lists as in messages.  Matching itself never fails: an error is a mistake in a declaration, the
misuse of a state handle, or a subject that no case of an exhaustive state takes.

* `CaseId` — the form of a case and its key;
* `MatchError.inCase` — the case that an error is about: the first that is attached stays;
* `MatchError.message` — the wording, in one place.
-/

namespace Casebook

/-! ## identities of cases -/

/-- The form a case is declared in: with patterns, with a predicate, or as the fallback. -/
inductive CaseKind where
  | withPatterns
  | whenHolds
  | otherwise
deriving DecidableEq

/-- The name of a form in identities and messages. -/
def CaseKind.name : CaseKind → String
  | withPatterns => "With"
  | whenHolds => "When"
  | otherwise => "Otherwise"

/-- A form and a key chosen by whoever declares the case. -/
structure CaseId where
  kind : CaseKind
  key : String
deriving DecidableEq

/-- An identity as it is shown. -/
def CaseId.label (id : CaseId) : String := id.kind.name ++ "." ++ id.key

/-! ## errors -/

namespace MatchError

/-- Why something failed. -/
inductive Cause where
  | missingPattern (kind : CaseKind)
  | missingPredicate
  | unexpectedPattern
  | handlerConflict (kind : CaseKind)
  | missingHandler (kind : CaseKind)
  | fallbackNotLast (fallback rejected : String)
  | multipleAnonymousSelections
  | mixedSelections
  | duplicateSelection (name : String)
  | unknownState (index : Nat)
  | disposed (index : Nat)
  | tooManyStates (count : Nat)
  | nonExhaustive (value : String)
deriving DecidableEq

namespace Cause

/-- Whether the mistake is in a declaration. -/
def isConfiguration : Cause → Bool
  | missingPattern _ | missingPredicate | unexpectedPattern | handlerConflict _
  | missingHandler _ | fallbackNotLast .. | multipleAnonymousSelections | mixedSelections
  | duplicateSelection _ => true
  | unknownState _ | disposed _ | tooManyStates _ | nonExhaustive _ => false

def message : Cause → String
  | missingPattern kind => "<" ++ kind.name ++ "> requires a `pattern`"
  | missingPredicate => "<When> requires a `predicate`"
  | unexpectedPattern =>
      "<Otherwise> matches everything and takes neither a `pattern` nor a `guard`"
  | handlerConflict kind =>
      "<" ++ kind.name ++ "> expects either a `handler` or a `then` value, not both"
  | missingHandler kind =>
      "<" ++ kind.name ++ "> expects either a `handler` or a `then` value"
  | fallbackNotLast fallback rejected =>
      "fallback case `" ++ fallback ++ "` must be the last case, but `" ++ rejected ++
        "` was registered after it"
  | multipleAnonymousSelections =>
      "only a single anonymous selection is allowed in a pattern; " ++
        "give selections names with `select(<name>)` instead"
  | mixedSelections =>
      "mixing named selections and anonymous selections is forbidden; " ++
        "only use named selections"
  | duplicateSelection name =>
      "selection `" ++ name ++ "` is captured more than once by the same pattern"
  | unknownState index => "unknown evaluation state #" ++ toString index
  | disposed index => "evaluation state #" ++ toString index ++ " has been disposed"
  | tooManyStates count => "state arena is full (" ++ toString count ++ " states)"
  | nonExhaustive value => "non-exhaustive match: no case matched " ++ value

end Cause

end MatchError

/-- A cause, and the case that was being declared when it arose. -/
structure MatchError where
  cause : MatchError.Cause
  case : Option String := none
deriving DecidableEq

namespace MatchError

/-- Attach a case, unless one is attached already. -/
def inCase (e : MatchError) (case : String) : MatchError :=
  { e with case := e.case <|> some case }

def message (e : MatchError) : String :=
  match e.case with
  | some case => e.cause.message ++ " (in case `" ++ case ++ "`)"
  | none => e.cause.message

end MatchError

end Casebook
