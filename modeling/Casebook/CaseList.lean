import Casebook.Case.Basic

/-!
# Casebook.CaseList

Cases in the order of their registration, and the snapshots that evaluation works on.  The
first case that takes a subject decides.

* `Config` — the options of a list and of the state that owns it;
* `CaseList.register` — append a case unless its identity is there; nothing may follow a
  fallback;
* `CaseSnapshot.resolve` — the first case that takes a subject, with its captures;
* `CaseSnapshot.run` — the result of a resolution.

Operations answer, and give the list as it is afterwards.
-/

namespace Casebook

universe u

/-- By default a subject that no case takes has no result, and a name may be captured more
than once. -/
structure Config where
  /-- A subject that no case takes is an error. -/
  exhaustive : Bool := false
  /-- Cases that capture a name more than once are rejected. -/
  strictSelections : Bool := false
deriving DecidableEq, Inhabited

/-- What a registration did. -/
inductive Registration where
  | added
  /-- A case of the same identity was there already. -/
  | duplicate
deriving DecidableEq

/-- Registered cases. -/
structure CaseList (α : Type u) where
  config : Config := {}
  cases : List (Case α) := []

/-- The cases of a list at one moment. -/
structure CaseSnapshot (α : Type u) where
  cases : List (Case α) := []

/-- The first case that takes a subject, by position, and its captures. -/
structure Resolution where
  index : Nat
  selections : Selections

namespace CaseList

variable {α : Type u}

def contains (l : CaseList α) (id : CaseId) : Bool := l.cases.any fun c => c.id == id

/-- The identity of the last case if that is a fallback. -/
def fallback? (l : CaseList α) : Option CaseId :=
  match l.cases.getLast? with
  | some c => if c.isFallback then some c.id else none
  | none => none

/-- Why a case of a new identity cannot be registered. -/
def rejection? (l : CaseList α) (c : Case α) : Option MatchError :=
  match l.fallback? with
  | some id => some ⟨.fallbackNotLast id.label c.id.label, some c.id.label⟩
  | none =>
      match c.duplicates with
      | name :: _ =>
          if l.config.strictSelections then some ⟨.duplicateSelection name, some c.id.label⟩
          else none
      | [] => none

/-- Append a case.  One whose identity is taken is left out without an error, whatever else
may be wrong with it. -/
def register (l : CaseList α) (c : Case α) : Except MatchError Registration × CaseList α :=
  if l.contains c.id then (.ok .duplicate, l)
  else match l.rejection? c with
    | some e => (.error e, l)
    | none => (.ok .added, { l with cases := l.cases ++ [c] })

/-- Drop every case. -/
def clear (l : CaseList α) : CaseList α := { l with cases := [] }

def snapshot (l : CaseList α) : CaseSnapshot α := ⟨l.cases⟩

end CaseList

namespace CaseSnapshot

variable {α : Type u}

def size (s : CaseSnapshot α) : Nat := s.cases.length

/-- The first of some cases that takes the subject; the first of them stands at `index`. -/
def resolveFrom (index : Nat) (subject : Value) : List (Case α) → Option Resolution
  | [] => none
  | c :: cs =>
      match c.match? subject with
      | some selections => some ⟨index, selections⟩
      | none => resolveFrom (index + 1) subject cs

/-- The first case that takes the subject. -/
def resolve (s : CaseSnapshot α) (subject : Value) : Option Resolution :=
  resolveFrom 0 subject s.cases

/-- The result of the case that a resolution points at. -/
def run (s : CaseSnapshot α) (r : Resolution) (subject : Value) : Option α :=
  s.cases[r.index]?.map fun c => c.run r.selections subject

/-- The result of the first case that takes the subject. -/
def evaluate (s : CaseSnapshot α) (subject : Value) : Option α :=
  (s.resolve subject).bind fun r => s.run r subject

end CaseSnapshot

end Casebook
