import Casebook.EvaluationState

/-!
# Casebook.Arena

Many evaluation states behind handles.  A handle names a slot and the generation of the state
that it was issued for.  Disposing a state frees its slot for the next generation, so an old
handle is recognised as disposed and never reaches the slot's new occupant.

* `Arena.create` — a new state, in the slot freed last if there is one;
* `Arena.find` — the state behind a handle, `Arena.findLive` unless it is disposed;
* `Arena.register`, `setSubject`, `evaluate`, `reset`, `dispose` — the operations of a state.

Operations answer, and give the arena as it is afterwards.
-/

namespace Casebook

universe u v

/-- A state in its slot, and the generation that the slot has come to. -/
structure Slot (α : Type u) extends state : EvaluationState α where
  generation : Nat

/-- Owner of evaluation states. -/
structure Arena (α : Type u) where
  config : Config := {}
  slots : Array (Slot α) := #[]
  /-- Slots that may be reused, the one freed last first. -/
  free : List Nat := []
  /-- How many states are live. -/
  size : Nat := 0

namespace Arena

variable {α : Type u}

def isEmpty (a : Arena α) : Bool := a.size == 0

/-- The error of a handle that was never issued. -/
def unknownError (h : Handle) : MatchError := { cause := .unknownState h.index }

/-- The error of a handle whose state is gone. -/
def disposedError (h : Handle) : MatchError := { cause := .disposed h.index }

/-- The slot freed last, under the last handle that was issued for it. -/
def reusable? (a : Arena α) : Option Handle :=
  match a.free with
  | [] => none
  | index :: _ => a.slots[index]?.map fun slot => ⟨index, slot.generation⟩

/-- A handle for a slot that no live state has. -/
def unusedHandle (a : Arena α) : Except MatchError Handle :=
  match a.reusable? with
  | some h => .ok ⟨h.index, h.generation + 1⟩
  | none =>
      if a.slots.size < Handle.limit then .ok ⟨a.slots.size, 0⟩
      else .error { cause := .tooManyStates a.slots.size }

/-- A new state with a subject. -/
def create (a : Arena α) (subject : Value) : Except MatchError Handle × Arena α :=
  match a.unusedHandle with
  | .error e => (.error e, a)
  | .ok h =>
      let slot : Slot α :=
        { ((EvaluationState.new a.config h).setSubject subject).2 with generation := h.generation }
      let a := { a with size := a.size + 1 }
      if h.index < a.slots.size then
        (.ok h, { a with slots := a.slots.setIfInBounds h.index slot, free := a.free.tail })
      else
        (.ok h, { a with slots := a.slots.push slot })

/-- The state behind a handle, which may be disposed as long as its slot is not reused. -/
def find (a : Arena α) (h : Handle) : Except MatchError (EvaluationState α) :=
  match a.slots[h.index]? with
  | none => .error (unknownError h)
  | some slot =>
      if h.generation = slot.generation then .ok slot.state
      else if h.generation < slot.generation then .error (disposedError h)
      else .error (unknownError h)

/-- The live state behind a handle. -/
def findLive (a : Arena α) (h : Handle) : Except MatchError (EvaluationState α) :=
  match a.find h with
  | .error e => .error e
  | .ok s => if s.lifecycle = .disposed then .error (disposedError h) else .ok s

/-- An operation on the live state behind a handle. -/
def update {β : Type v} (a : Arena α) (h : Handle)
    (operation : EvaluationState α → Except MatchError β × EvaluationState α) :
    Except MatchError β × Arena α :=
  match a.findLive h with
  | .error e => (.error e, a)
  | .ok s =>
      let (answer, state) := operation s
      (answer, { a with slots := a.slots.modify h.index fun slot => { slot with state } })

def register (a : Arena α) (h : Handle) (c : Case α) :
    Except MatchError Registration × Arena α :=
  a.update h fun s => s.register c

def setSubject (a : Arena α) (h : Handle) (subject : Value) :
    Except MatchError Unit × Arena α :=
  a.update h fun s => s.setSubject subject

def evaluate (a : Arena α) (h : Handle) : Except MatchError (Option α) :=
  match a.find h with
  | .error e => .error e
  | .ok s => s.evaluate

def reset (a : Arena α) (h : Handle) : Except MatchError Unit × Arena α :=
  a.update h fun s => s.reset

/-- Dispose a live state and free its slot, unless the slot is out of generations. -/
def dispose (a : Arena α) (h : Handle) : Except MatchError Unit × Arena α :=
  match a.update h fun s => (.ok (), s.dispose) with
  | (.error e, a) => (.error e, a)
  | (.ok (), a) =>
      (.ok (), { a with
        size := a.size - 1
        free := if h.generation < Handle.limit then h.index :: a.free else a.free })

end Arena

end Casebook
