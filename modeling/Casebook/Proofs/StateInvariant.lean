import Casebook.Proofs.StateRun

/-!
# Casebook.Proofs.StateInvariant

What holds of a state after any calls, failed ones included.

* `idle_of_coherent` — a state that is not active is empty;
* `call_of_disposed`, `run_of_disposed` — a disposed state stays as it is;
* `firstMatch_of_coherent` — a cached resolution is the first match of the cases;
* `run_invariant` — all of it, after any calls.
-/

namespace Casebook.EvaluationState

universe u

variable {α : Type u} {s : EvaluationState α}

/-- The snapshot has exactly the cases of the list. -/
theorem snapshot_cases_of_coherent (h : Coherent s) : s.snapshot.cases = s.cases.cases := by
  rw [h.snapshot_eq, CaseList.snapshot]

/-! ## states that are not active -/

/-- What a state looks like that holds nothing. -/
structure Idle (s : EvaluationState α) : Prop where
  cases_eq : s.cases.cases = []
  snapshot_eq : s.snapshot.cases = []
  subject_eq : s.subject = .undefined
  resolution_eq : s.resolution = none

/-- A state that is not active holds no case, no subject and no resolution. -/
theorem idle_of_coherent (h : Coherent s) (hl : s.lifecycle ≠ .active) : Idle s := by
  obtain ⟨hcases, hsubject⟩ := h.idle hl
  have hsnapshot : s.snapshot.cases = [] := (snapshot_cases_of_coherent h).trans hcases
  refine ⟨hcases, hsnapshot, hsubject, ?_⟩
  rw [h.resolution_eq, CaseSnapshot.resolve, hsnapshot]
  rfl

/-- There is nothing left to drop from such a state. -/
theorem clear_of_idle (h : Idle s) : s.clear = s := by
  obtain ⟨handle, lifecycle, subject, ⟨config, cases⟩, ⟨snapshot⟩, resolution⟩ := s
  obtain ⟨hcases, hsnapshot, hsubject, hresolution⟩ := h
  simp only at hcases hsnapshot hsubject hresolution
  subst hcases hsnapshot hsubject hresolution
  rfl

/-- Recomputing what is current changes nothing. -/
theorem recompute_of_coherent (h : Coherent s) : s.recompute = s := by
  have hresolution : s.cases.snapshot.resolve s.subject = s.resolution := by
    rw [h.resolution_eq, h.snapshot_eq]
  rw [recompute, hresolution, ← h.snapshot_eq]

/-! ## disposed states -/

/-- No call changes a disposed state. -/
theorem call_of_disposed (h : Coherent s) (hd : s.lifecycle = .disposed) (c : Call α) :
    (s.call c).2 = s := by
  have hidle : Idle s := idle_of_coherent h (by simp [hd])
  cases c with
  | setSubject subject =>
      rw [call, setSubject, if_pos hd]
      rfl
  | register c =>
      rw [call, register, if_pos hd]
      rfl
  | recompute => exact recompute_of_coherent h
  | evaluate => rfl
  | reset =>
      rw [call, reset, if_pos hd]
      rfl
  | dispose =>
      show s.dispose = s
      rw [dispose, clear_of_idle hidle, ← hd]

/-- A disposed state stays as it is, whatever is called. -/
theorem run_of_disposed (h : Coherent s) (hd : s.lifecycle = .disposed) (calls : List (Call α)) :
    s.run calls = s := by
  induction calls with
  | nil => rfl
  | cons c calls ih => rw [run_cons, call_of_disposed h hd, ih]

/-! ## the cached resolution -/

/-- A resolution points at the first case that takes the subject, with what that case
captures. -/
def FirstMatch (cases : List (Case α)) (subject : Value) (r : Resolution) : Prop :=
  ∃ before c after, cases = before ++ c :: after ∧ r.index = before.length ∧
    c.match? subject = some r.selections ∧ ∀ d ∈ before, d.match? subject = none

/-- The index of a resolution is that of a case. -/
theorem index_lt_of_firstMatch {cases : List (Case α)} {subject : Value} {r : Resolution}
    (h : FirstMatch cases subject r) : r.index < cases.length := by
  obtain ⟨before, c, after, rfl, hi, -, -⟩ := h
  rw [hi, List.length_append, List.length_cons]
  omega

/-- The cached resolution is at all times the one that the cases and the subject have. -/
theorem firstMatch_of_coherent (h : Coherent s) {r : Resolution} :
    s.resolution = some r ↔ FirstMatch s.cases.cases s.subject r := by
  rw [h.resolution_eq, h.snapshot_eq]
  exact CaseSnapshot.resolve_eq_some_iff

/-! ## runs -/

/-- **Whatever was called, a state is current.**  Its snapshot lists its cases, its resolution is
the first match of these with its subject, a state that is not active is empty, and a disposed one
refuses every operation and never changes again. -/
theorem run_invariant (config : Config) (handle : Handle) (calls : List (Call α)) :
    let s := (new config handle).run calls
    s.snapshot.cases = s.cases.cases ∧
      s.resolution = s.cases.snapshot.resolve s.subject ∧
      (s.resolution = none ↔ ∀ c ∈ s.cases.cases, c.match? s.subject = none) ∧
      (∀ r, s.resolution = some r ↔ FirstMatch s.cases.cases s.subject r) ∧
      (∀ r, s.resolution = some r → r.index < s.snapshot.size) ∧
      (s.lifecycle ≠ .active → Idle s) ∧
      (s.lifecycle = .disposed →
        (∀ subject, s.setSubject subject = (.error s.disposedError, s)) ∧
        (∀ c, s.register c = (.error s.disposedError, s)) ∧
        s.reset = (.error s.disposedError, s) ∧
        s.evaluate = .error s.disposedError ∧
        ∀ calls', s.run calls' = s) := by
  intro s
  have h : Coherent s := coherent_run (coherent_new config handle) calls
  have hcases : s.snapshot.cases = s.cases.cases := snapshot_cases_of_coherent h
  refine ⟨hcases, ?_, ?_, fun r => firstMatch_of_coherent h, ?_, idle_of_coherent h, ?_⟩
  · rw [h.resolution_eq, h.snapshot_eq]
  · rw [h.resolution_eq, CaseSnapshot.resolve_eq_none_iff, hcases]
  · intro r hr
    rw [CaseSnapshot.size, hcases]
    exact index_lt_of_firstMatch ((firstMatch_of_coherent h).mp hr)
  · intro hd
    refine ⟨fun subject => ?_, fun c => ?_, ?_, ?_, run_of_disposed h hd⟩
    · rw [setSubject, if_pos hd]
    · rw [register, if_pos hd]
    · rw [reset, if_pos hd]
    · rw [evaluate, if_pos hd]

/-- A case that captures every subject under the name `all`. -/
def capturingAll : Case Nat where
  id := ⟨.withPatterns, "all"⟩
  patterns := [.select (.named "all") none]
  guards := []
  handler _ _ := 1
  valid := by decide

/-- A state with a subject that its case takes, and the same state once it is disposed and its
owner goes on all the same. -/
theorem run_invariant_capturingAll :
    (∃ s : EvaluationState Nat,
      s = (new {} .detached).run [.register capturingAll, .setSubject .null] ∧
        s.resolution = some ⟨0, Selections.ofList [(.named "all", .part .null)]⟩ ∧
        FirstMatch s.cases.cases s.subject
          ⟨0, Selections.ofList [(.named "all", .part .null)]⟩ ∧ 0 < s.snapshot.size) ∧
      ∃ s : EvaluationState Nat,
        s = (new {} .detached).run
          [.register capturingAll, .setSubject .null, .dispose, .setSubject .null] ∧
        s.lifecycle = .disposed ∧ s.resolution = none ∧
        s.register capturingAll = (.error s.disposedError, s) ∧
        s.run [.register capturingAll, .recompute, .reset, .dispose] = s := by
  constructor
  · obtain ⟨-, -, -, hfirst, hindex, -, -⟩ :=
      run_invariant {} .detached [.register capturingAll, .setSubject .null]
    exact ⟨_, rfl, rfl, (hfirst _).mp rfl, hindex _ rfl⟩
  · obtain ⟨-, -, -, -, -, hidle, hdisposed⟩ :=
      run_invariant {} .detached
        [.register capturingAll, .setSubject .null, .dispose, .setSubject .null]
    obtain ⟨-, hregister, -, -, hrun⟩ := hdisposed rfl
    exact ⟨_, rfl, rfl, (hidle (by decide)).resolution_eq, hregister _, hrun _⟩

end Casebook.EvaluationState
