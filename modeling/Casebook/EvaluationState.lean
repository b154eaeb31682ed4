import Casebook.CaseList
import Casebook.Value.Text

/-!
# Casebook.EvaluationState

A subject, its cases, and the case that takes it as of the last change.

```
uninitialized --setSubject / register--> active --dispose--> disposed
      ^                                    |
      +--------------- reset --------------+
```

Every change of the subject or of the cases resolves the subject anew; evaluation only runs
the case that was found.  Operations answer, and give the state as it is afterwards.

* `EvaluationState.setSubject`, `register`, `reset`, `dispose` — the changes;
* `EvaluationState.evaluate` — the result for the subject.
-/

namespace Casebook

universe u

/-- Who holds a state: the slot of an arena and how often the slot was reused. -/
structure Handle where
  index : Nat
  generation : Nat
deriving DecidableEq

namespace Handle

/-- Slot indices and generations stay below this number. -/
def limit : Nat := 4294967295

/-- The handle of a state that is in no arena. -/
def detached : Handle := ⟨limit, 0⟩

def isDetached (h : Handle) : Bool := h.index == limit

/-- The text of a handle in diagnostics. -/
def inspect (h : Handle) : String :=
  if h.isDetached then "StateId::DETACHED"
  else "StateId(" ++ toString h.index ++ "@" ++ toString h.generation ++ ")"

end Handle

inductive Lifecycle where
  | uninitialized
  | active
  | disposed
deriving DecidableEq

def Lifecycle.name : Lifecycle → String
  | uninitialized => "Uninitialized"
  | active => "Active"
  | disposed => "Disposed"

/-- One subject and the cases evaluated against it. -/
structure EvaluationState (α : Type u) where
  handle : Handle
  lifecycle : Lifecycle
  subject : Value
  cases : CaseList α
  snapshot : CaseSnapshot α
  resolution : Option Resolution

namespace EvaluationState

variable {α : Type u}

/-- A state without subject and cases. -/
def new (config : Config) (handle : Handle := .detached) : EvaluationState α where
  handle
  lifecycle := .uninitialized
  subject := .undefined
  cases := { config }
  snapshot := {}
  resolution := none

def config (s : EvaluationState α) : Config := s.cases.config

/-- The error of every operation on a state that is no longer live. -/
def disposedError (s : EvaluationState α) : MatchError := { cause := .disposed s.handle.index }

/-- Resolve the subject against the cases as they are now. -/
def recompute (s : EvaluationState α) : EvaluationState α :=
  let snapshot := s.cases.snapshot
  { s with snapshot, resolution := snapshot.resolve s.subject }

/-- Replace the subject. -/
def setSubject (s : EvaluationState α) (subject : Value) :
    Except MatchError Unit × EvaluationState α :=
  if s.lifecycle = .disposed then (.error s.disposedError, s)
  else (.ok (), recompute { s with subject, lifecycle := .active })

/-- Register a case. -/
def register (s : EvaluationState α) (c : Case α) :
    Except MatchError Registration × EvaluationState α :=
  if s.lifecycle = .disposed then (.error s.disposedError, s)
  else match s.cases.register c with
    | (.error e, cases) => (.error e, { s with cases })
    | (.ok .duplicate, cases) => (.ok .duplicate, { s with cases, lifecycle := .active })
    | (.ok .added, cases) =>
        (.ok .added, recompute { s with cases, lifecycle := .active })

/-- The result of the case that takes the subject.  Without one there is no result, which an
exhaustive state reports as an error. -/
def evaluate (s : EvaluationState α) : Except MatchError (Option α) :=
  if s.lifecycle = .disposed then .error s.disposedError
  else match s.resolution with
    | some r => .ok (s.snapshot.run r s.subject)
    | none =>
        if s.config.exhaustive then .error { cause := .nonExhaustive s.subject.display }
        else .ok none

/-- Drop the subject and the cases. -/
def clear (s : EvaluationState α) : EvaluationState α :=
  { s with cases := s.cases.clear, subject := .undefined, snapshot := {}, resolution := none }

/-- Back to a state without subject and cases. -/
def reset (s : EvaluationState α) : Except MatchError Unit × EvaluationState α :=
  if s.lifecycle = .disposed then (.error s.disposedError, s)
  else (.ok (), { s.clear with lifecycle := .uninitialized })

/-- Tear the state down.  Every later operation but this one fails. -/
def dispose (s : EvaluationState α) : EvaluationState α :=
  { s.clear with lifecycle := .disposed }

end EvaluationState

end Casebook
