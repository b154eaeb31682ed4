import Casebook.EvaluationState
import Casebook.Proofs.Registration
import Casebook.Proofs.Resolution

/-!
# Casebook.Proofs.StateRun

Runs of an evaluation state: any calls, one after the other, whatever they answer.

* `EvaluationState.call`, `run` — one call with its answer, and the state after some calls;
* `register_of_admits`, `register_of_not_admits` — the two things a registration can do to a
  live state; `eq_of_register_ok` — what it did if it was answered;
* `handle_call`, `lifecycle_call_ne_disposed`, `cause_of_call` — a call keeps the handle, only
  disposal ends a state, and a live state fails over a declaration or its subject;
* `cases_call` — what a call does to the cases;
* `Coherent` — what the state has cached is what its cases and its subject give;
  `coherent_call` and `coherent_run` say that every call restores it.
-/

namespace Casebook

universe u

/-- What an operation on states answers. -/
inductive Answer (α : Type u) where
  /-- The handle of a new state. -/
  | issued (result : Except MatchError Handle)
  | done (result : Except MatchError Unit)
  | registered (result : Except MatchError Registration)
  | evaluated (result : Except MatchError (Option α))

/-- The error of an operation that failed. -/
def Answer.error? {α : Type u} : Answer α → Option MatchError
  | issued (.error e) | done (.error e) | registered (.error e) | evaluated (.error e) => some e
  | issued (.ok _) | done (.ok _) | registered (.ok _) | evaluated (.ok _) => none

namespace EvaluationState

/-- A call of one state. -/
inductive Call (α : Type u) where
  | setSubject (subject : Value)
  | register (c : Case α)
  | recompute
  | evaluate
  | reset
  | dispose

variable {α : Type u}

/-- The answer to a call, and the state after it. -/
def call (s : EvaluationState α) : Call α → Answer α × EvaluationState α
  | .setSubject subject => (s.setSubject subject).map .done id
  | .register c => (s.register c).map .registered id
  | .recompute => (.done (.ok ()), s.recompute)
  | .evaluate => (.evaluated s.evaluate, s)
  | .reset => s.reset.map .done id
  | .dispose => (.done (.ok ()), s.dispose)

/-- The state after some calls. -/
def run (s : EvaluationState α) (calls : List (Call α)) : EvaluationState α :=
  calls.foldl (fun s c => (s.call c).2) s

@[simp] theorem run_cons (s : EvaluationState α) (c : Call α) (calls : List (Call α)) :
    s.run (c :: calls) = (s.call c).2.run calls := rfl

/-! ## the changes of a live state -/

/-- A live state takes every subject, becomes active and resolves it at once. -/
theorem setSubject_of_live {s : EvaluationState α} (hl : s.lifecycle ≠ .disposed)
    (subject : Value) :
    s.setSubject subject = (.ok (), recompute { s with subject, lifecycle := .active }) := by
  rw [setSubject, if_neg hl]

/-- A live state that is reset holds nothing and waits for its first case or subject. -/
theorem reset_of_live {s : EvaluationState α} (hl : s.lifecycle ≠ .disposed) :
    s.reset = (.ok (), { s.clear with lifecycle := .uninitialized }) := by
  rw [reset, if_neg hl]

/-- A live state puts a case that is admitted at the end of its list and resolves its subject
anew. -/
theorem register_of_admits {s : EvaluationState α} {c : Case α}
    (hl : s.lifecycle ≠ .disposed)
    (h : CaseList.admits s.config s.cases.cases c = true) :
    s.register c = (.ok .added,
      recompute { s with
        cases := { s.cases with cases := s.cases.cases ++ [c] }, lifecycle := .active }) := by
  rw [register, if_neg hl, CaseList.register_of_admits h]

/-- A case that is not admitted changes nothing but the lifecycle, if even that. -/
theorem register_of_not_admits {s : EvaluationState α} {c : Case α}
    (hl : s.lifecycle ≠ .disposed)
    (h : CaseList.admits s.config s.cases.cases c = false) :
    ∃ answer lifecycle, s.register c = (answer, { s with lifecycle }) ∧ answer ≠ .ok .added ∧
      (lifecycle = s.lifecycle ∨ lifecycle = .active) := by
  obtain ⟨answer, hr, ha⟩ := CaseList.register_of_not_admits h
  rw [register, if_neg hl, hr]
  match answer, ha with
  | .error e, ha => exact ⟨.error e, s.lifecycle, rfl, ha, .inl rfl⟩
  | .ok .duplicate, ha => exact ⟨.ok .duplicate, .active, rfl, ha, .inr rfl⟩

/-- What a registration does that is answered: the case is there afterwards, unless its identity
was. -/
theorem eq_of_register_ok {s t : EvaluationState α} (hl : s.lifecycle ≠ .disposed) {c : Case α}
    {r : Registration} (h : s.register c = (.ok r, t)) :
    t.subject = s.subject ∧
      t.cases = if s.cases.contains c.id then s.cases
        else { s.cases with cases := s.cases.cases ++ [c] } := by
  rw [register, if_neg hl, CaseList.register] at h
  by_cases hc : s.cases.contains c.id = true
  · rw [if_pos hc] at h ⊢
    obtain rfl := (Prod.mk.inj h).2
    exact ⟨rfl, rfl⟩
  · rw [if_neg hc] at h ⊢
    cases hr : s.cases.rejection? c with
    | some e =>
        rw [hr] at h
        cases (Prod.mk.inj h).1
    | none =>
        rw [hr] at h
        obtain rfl := (Prod.mk.inj h).2
        exact ⟨rfl, rfl⟩

/-! ## what a call keeps -/

/-- No call changes the handle of a state. -/
theorem handle_call (s : EvaluationState α) (c : Call α) : (s.call c).2.handle = s.handle := by
  cases c with
  | setSubject subject =>
      show (s.setSubject subject).2.handle = s.handle
      unfold setSubject
      split <;> rfl
  | register c =>
      show (s.register c).2.handle = s.handle
      unfold register
      split
      case isTrue => rfl
      case isFalse => split <;> rfl
  | reset =>
      show s.reset.2.handle = s.handle
      unfold reset
      split <;> rfl
  | recompute | evaluate | dispose => rfl

/-- Only disposal ends a state. -/
theorem lifecycle_call_ne_disposed {s : EvaluationState α} (hl : s.lifecycle ≠ .disposed)
    {c : Call α} (hc : c ≠ .dispose) : (s.call c).2.lifecycle ≠ .disposed := by
  cases c with
  | setSubject subject =>
      show (s.setSubject subject).2.lifecycle ≠ .disposed
      rw [setSubject_of_live hl]
      simp [recompute]
  | register c =>
      show (s.register c).2.lifecycle ≠ .disposed
      rw [register, if_neg hl]
      split
      case h_1 => exact hl
      case h_2 => simp
      case h_3 => simp [recompute]
  | reset =>
      show s.reset.2.lifecycle ≠ .disposed
      rw [reset_of_live hl]
      simp
  | recompute | evaluate => exact hl
  | dispose => exact absurd rfl hc

/-- A state is live as long as it is not disposed of, whatever else is called. -/
theorem lifecycle_run_ne_disposed {s : EvaluationState α} (hl : s.lifecycle ≠ .disposed)
    {calls : List (Call α)} (h : .dispose ∉ calls) : (s.run calls).lifecycle ≠ .disposed := by
  induction calls generalizing s with
  | nil => exact hl
  | cons c calls ih =>
      rw [List.mem_cons, not_or] at h
      exact ih (lifecycle_call_ne_disposed hl (Ne.symm h.1)) h.2

/-- A call keeps the cases, adds one that is admitted, or drops all of them. -/
theorem cases_call (s : EvaluationState α) (c : Call α) :
    (s.call c).2.cases = s.cases ∨
      (∃ case, CaseList.admits s.config s.cases.cases case = true ∧
        (s.call c).2.cases = { s.cases with cases := s.cases.cases ++ [case] }) ∨
      ((c = .reset ∨ c = .dispose) ∧ (s.call c).2.cases = s.cases.clear) := by
  cases c with
  | setSubject subject =>
      left
      show (s.setSubject subject).2.cases = s.cases
      unfold setSubject
      split <;> rfl
  | register c =>
      show (s.register c).2.cases = s.cases ∨ _
      by_cases hl : s.lifecycle = .disposed
      · rw [register, if_pos hl]
        exact .inl rfl
      · cases ha : CaseList.admits s.config s.cases.cases c with
        | true =>
            right; left
            refine ⟨c, ha, ?_⟩
            rw [call, register_of_admits hl ha]
            rfl
        | false =>
            obtain ⟨answer, lifecycle, hr, -⟩ := register_of_not_admits hl ha
            rw [hr]
            exact .inl rfl
  | recompute | evaluate => exact .inl rfl
  | reset =>
      show s.reset.2.cases = s.cases ∨ _
      unfold reset
      split
      case isTrue => exact .inl rfl
      case isFalse hl =>
          right; right
          rw [call, reset_of_live hl]
          exact ⟨.inl rfl, rfl⟩
  | dispose => exact .inr (.inr ⟨.inr rfl, rfl⟩)

/-- A live state complains of a declaration, or of a subject that no case takes. -/
theorem cause_of_call {s : EvaluationState α} (hl : s.lifecycle ≠ .disposed) {c : Call α}
    {e : MatchError} (he : (s.call c).1.error? = some e) :
    e.cause.isConfiguration = true ∨ ∃ text, e.cause = .nonExhaustive text := by
  cases c with
  | setSubject subject =>
      rw [call, setSubject_of_live hl] at he
      cases he
  | register c =>
      rw [call, register, if_neg hl] at he
      split at he
      case h_1 e' cases hr =>
          obtain rfl : e' = e := Option.some.inj he
          exact .inl (CaseList.isConfiguration_of_register (congrArg Prod.fst hr))
      case h_2 => cases he
      case h_3 => cases he
  | evaluate =>
      rw [call, evaluate, if_neg hl] at he
      split at he
      case h_1 => cases he
      case h_2 =>
          split at he
          case isTrue =>
              obtain rfl := Option.some.inj he
              exact .inr ⟨_, rfl⟩
          case isFalse => cases he
  | reset =>
      rw [call, reset_of_live hl] at he
      cases he
  | recompute | dispose => cases he

/-! ## coherence -/

/-- The cached cases and the cached resolution are current, and a state that is not active has
neither cases nor a subject. -/
structure Coherent (s : EvaluationState α) : Prop where
  snapshot_eq : s.snapshot = s.cases.snapshot
  resolution_eq : s.resolution = s.snapshot.resolve s.subject
  idle : s.lifecycle ≠ .active → s.cases.cases = [] ∧ s.subject = .undefined

/-- A new state has no case, no subject and no resolution, so nothing is out of date. -/
theorem coherent_new (config : Config) (h : Handle) :
    Coherent (new config h : EvaluationState α) :=
  ⟨rfl, rfl, fun _ => ⟨rfl, rfl⟩⟩

/-- Recomputing restores what is cached, whatever it was. -/
theorem coherent_recompute {s : EvaluationState α}
    (h : s.lifecycle ≠ .active → s.cases.cases = [] ∧ s.subject = .undefined) :
    Coherent s.recompute :=
  ⟨rfl, rfl, h⟩

/-- A state that is cleared has nothing that could be out of date. -/
theorem coherent_cleared (s : EvaluationState α) (lifecycle : Lifecycle) :
    Coherent { s.clear with lifecycle } :=
  ⟨rfl, rfl, fun _ => ⟨rfl, rfl⟩⟩

/-- After a subject is set, the cached resolution is the one for that subject. -/
theorem coherent_setSubject {s : EvaluationState α} (h : Coherent s) (subject : Value) :
    Coherent (s.setSubject subject).2 := by
  unfold setSubject
  split
  case isTrue => exact h
  case isFalse => exact coherent_recompute fun hl => absurd rfl hl

/-- After a registration, added or refused, the cached resolution is that of the list as it is
then. -/
theorem coherent_register {s : EvaluationState α} (h : Coherent s) (c : Case α) :
    Coherent (s.register c).2 := by
  by_cases hl : s.lifecycle = .disposed
  · rw [register, if_pos hl]
    exact h
  · cases ha : CaseList.admits s.config s.cases.cases c with
    | true =>
        rw [register_of_admits hl ha]
        exact coherent_recompute fun hl => absurd rfl hl
    | false =>
        obtain ⟨answer, lifecycle, hr, -, hlc⟩ := register_of_not_admits hl ha
        rw [hr]
        refine ⟨h.snapshot_eq, h.resolution_eq, fun hna => ?_⟩
        rcases hlc with rfl | rfl
        · exact h.idle hna
        · exact absurd rfl hna

/-- Every call leaves what is cached up to date. -/
theorem coherent_call {s : EvaluationState α} (h : Coherent s) (c : Call α) :
    Coherent (s.call c).2 := by
  cases c with
  | setSubject subject => exact coherent_setSubject h subject
  | register c => exact coherent_register h c
  | recompute => exact coherent_recompute h.idle
  | evaluate => exact h
  | reset =>
      show Coherent s.reset.2
      unfold reset
      split
      case isTrue => exact h
      case isFalse => exact coherent_cleared s .uninitialized
  | dispose => exact coherent_cleared s .disposed

/-- Whatever is called, what a state has cached stays up to date. -/
theorem coherent_run {s : EvaluationState α} (h : Coherent s) (calls : List (Call α)) :
    Coherent (s.run calls) := by
  induction calls generalizing s with
  | nil => exact h
  | cons c calls ih => exact ih (coherent_call h c)

end EvaluationState

end Casebook
