import Casebook.Proofs.CaseListRun
import Casebook.Proofs.StateInvariant

/-!
# Casebook.Proofs.LaterCases

What registering more cases does to a subject that a case takes already, and to one that no case
takes so far.  Every registration resolves the subject anew, from the first case on.

* `CaseSnapshot.resolveFrom_append` — later cases are asked only when no earlier one takes the
  subject;
* `EvaluationState.register_of_resolution` — a resolution survives a registration, whatever that
  is answered;
* `resolution_of_added` — without a resolution only the case that was added counts;
* `run_register_keeps_resolution` — both, after any calls.
-/

namespace Casebook

universe u

namespace CaseSnapshot

variable {α : Type u}

/-- Cases behind others get their turn if none of those takes the subject, and count on from
them. -/
theorem resolveFrom_append (index : Nat) (subject : Value) (cases later : List (Case α)) :
    resolveFrom index subject (cases ++ later) =
      (resolveFrom index subject cases <|>
        resolveFrom (index + cases.length) subject later) := by
  induction cases generalizing index with
  | nil => simp [resolveFrom]
  | cons c cases ih =>
      have hlength : index + (c :: cases).length = index + 1 + cases.length := by
        simp only [List.length_cons]
        omega
      simp only [List.cons_append, resolveFrom, hlength]
      cases c.match? subject with
      | some selections => simp
      | none => simp [ih]

/-- One more case is asked last. -/
theorem resolve_concat (cases : List (Case α)) (c : Case α) (subject : Value) :
    resolve ⟨cases ++ [c]⟩ subject =
      (resolve ⟨cases⟩ subject <|> (c.match? subject).map (Resolution.mk cases.length)) := by
  have hlast : resolveFrom cases.length subject [c] =
      (c.match? subject).map (Resolution.mk cases.length) := by
    simp only [resolveFrom]
    cases c.match? subject <;> simp
  simp only [resolve, resolveFrom_append, Nat.zero_add, hlast]

/-- What a resolution points at stays where it is when cases follow. -/
theorem run_append {cases : List (Case α)} {r : Resolution} (h : r.index < cases.length)
    (later : List (Case α)) (subject : Value) :
    run ⟨cases ++ later⟩ r subject = run ⟨cases⟩ r subject := by
  simp [run, List.getElem?_append_left h]

end CaseSnapshot

namespace EvaluationState

variable {α : Type u} {s : EvaluationState α} {r : Resolution}

/-! ## a subject that is taken -/

/-- Only an active state has a resolution. -/
theorem active_of_resolution (h : Coherent s) (hr : s.resolution = some r) :
    s.lifecycle = .active := by
  apply Classical.byContradiction
  intro hl
  have hnone : s.resolution = none := (idle_of_coherent h hl).resolution_eq
  simp [hnone] at hr

/-- To evaluate a live state that has a resolution is to run its case. -/
theorem evaluate_of_resolution (hl : s.lifecycle ≠ .disposed) (hr : s.resolution = some r) :
    s.evaluate = .ok (s.snapshot.run r s.subject) := by
  simp [evaluate, hl, hr]

/-- A case that is added stands behind the one that takes the subject. -/
theorem register_of_resolution (h : Coherent s) (hr : s.resolution = some r) (c : Case α) :
    (s.register c).2.resolution = some r ∧ (s.register c).2.evaluate = s.evaluate := by
  have hactive : s.lifecycle = .active := active_of_resolution h hr
  have hl : s.lifecycle ≠ .disposed := by simp [hactive]
  cases ha : CaseList.admits s.config s.cases.cases c with
  | true =>
      have hresolve : CaseSnapshot.resolve ⟨s.cases.cases⟩ s.subject = some r := by
        rw [← hr, h.resolution_eq, h.snapshot_eq, CaseList.snapshot]
      have hlt : r.index < s.cases.cases.length :=
        index_lt_of_firstMatch ((firstMatch_of_coherent h).mp hr)
      have hresolution : (s.register c).2.resolution = some r := by
        simp [register_of_admits hl ha, recompute, CaseList.snapshot,
          CaseSnapshot.resolve_concat, hresolve]
      refine ⟨hresolution, ?_⟩
      have hlive : (s.register c).2.lifecycle ≠ .disposed := by
        simp [register_of_admits hl ha, recompute]
      rw [evaluate_of_resolution hlive hresolution, evaluate_of_resolution hl hr,
        register_of_admits hl ha, h.snapshot_eq]
      simp only [recompute, CaseList.snapshot, CaseSnapshot.run_append hlt]
  | false =>
      -- such a case makes the state active at most, and active it is
      obtain ⟨answer, lifecycle, hregister, -, hkept⟩ := register_of_not_admits hl ha
      have hlifecycle : lifecycle = s.lifecycle := hkept.elim id fun he => he.trans hactive.symm
      rw [hregister, hlifecycle]
      exact ⟨hr, rfl⟩

/-- Once a case has taken the subject, no later registration changes the resolution or the
result. -/
theorem run_register_of_resolution (h : Coherent s) (hr : s.resolution = some r)
    (cs : List (Case α)) :
    (s.run (cs.map .register)).resolution = some r ∧
      (s.run (cs.map .register)).evaluate = s.evaluate := by
  induction cs generalizing s with
  | nil => exact ⟨hr, rfl⟩
  | cons c cs ih =>
      obtain ⟨hresolution, hevaluate⟩ := register_of_resolution h hr c
      have hrest := ih (coherent_register h c) hresolution
      rw [List.map_cons, run_cons]
      exact ⟨hrest.1, hrest.2.trans hevaluate⟩

/-! ## a subject that no case takes so far -/

/-- The case that was added decides, at the end of the list. -/
theorem resolution_of_added (h : Coherent s) (hr : s.resolution = none) {c : Case α}
    (hadded : (s.register c).1 = .ok .added) :
    (s.register c).2.cases.cases = s.cases.cases ++ [c] ∧
      (s.register c).2.resolution =
        (c.match? s.subject).map (Resolution.mk s.cases.cases.length) := by
  have hl : s.lifecycle ≠ .disposed := by
    intro hd
    simp [register, hd] at hadded
  cases ha : CaseList.admits s.config s.cases.cases c with
  | true =>
      have hresolve : CaseSnapshot.resolve ⟨s.cases.cases⟩ s.subject = none := by
        rw [← hr, h.resolution_eq, h.snapshot_eq, CaseList.snapshot]
      simp [register_of_admits hl ha, recompute, CaseList.snapshot, CaseSnapshot.resolve_concat,
        hresolve]
  | false =>
      obtain ⟨answer, lifecycle, hregister, hanswer, -⟩ := register_of_not_admits hl ha
      rw [hregister] at hadded
      exact absurd hadded hanswer

/-- **Later cases only get what earlier ones leave.**  Once a case takes the subject, the state
keeps that resolution and its result through any registrations, be the cases added, duplicates or
rejected.  As long as none does, a case that is added gives the state a resolution iff it takes the
subject itself; the resolution then points at the end of the list and has the captures of that
case. -/
theorem run_register_keeps_resolution (config : Config) (handle : Handle)
    (calls : List (Call α)) :
    let s := (new config handle).run calls
    (∀ r, s.resolution = some r → ∀ cs : List (Case α),
      (s.run (cs.map .register)).resolution = some r ∧
        (s.run (cs.map .register)).evaluate = s.evaluate) ∧
    (s.resolution = none → ∀ c : Case α, (s.register c).1 = .ok .added →
      let t := (s.register c).2
      (t.resolution.isSome ↔ (c.match? s.subject).isSome) ∧
        ∀ r, t.resolution = some r →
          r.index + 1 = t.cases.cases.length ∧ t.cases.cases[r.index]? = some c ∧
            c.match? s.subject = some r.selections) := by
  intro s
  have h : Coherent s := coherent_run (coherent_new config handle) calls
  refine ⟨fun r hr cs => run_register_of_resolution h hr cs, fun hr c hadded => ?_⟩
  obtain ⟨hcases, hresolution⟩ := resolution_of_added h hr hadded
  simp only [hcases, hresolution]
  refine ⟨by simp, fun r hmap => ?_⟩
  obtain ⟨selections, hmatch, rfl⟩ := Option.map_eq_some_iff.mp hmap
  exact ⟨by simp, by simp, hmatch⟩

/-- A state whose first case takes the subject meets a duplicate of that case, a fallback that it
adds, and a case that comes too late for it.  Another one, whose case does not take the subject,
gets the fallback. -/
theorem run_register_keeps_resolution_onTrue :
    (∃ s : EvaluationState Nat,
      s = (new {} .detached).run [.setSubject (.bool true), .register CaseList.onTrue] ∧
        s.resolution = some ⟨0, ∅⟩ ∧
        (s.run ([CaseList.onTrue, CaseList.anything, CaseList.twoNames].map .register)).resolution =
          some ⟨0, ∅⟩ ∧
        (s.run ([CaseList.onTrue, CaseList.anything, CaseList.twoNames].map .register)).evaluate =
          s.evaluate ∧
        s.evaluate = .ok (some 4)) ∧
      ∃ s : EvaluationState Nat,
        s = (new {} .detached).run [.setSubject .null, .register CaseList.onTrue] ∧
        s.resolution = none ∧ (s.register CaseList.anything).1 = .ok .added ∧
        ∃ r, (s.register CaseList.anything).2.resolution = some r ∧ r.index + 1 = 2 ∧
          CaseList.anything.match? .null = some r.selections := by
  constructor
  · obtain ⟨hkept, -⟩ := run_register_keeps_resolution (α := Nat) {} .detached
      [.setSubject (.bool true), .register CaseList.onTrue]
    obtain ⟨hresolution, hevaluate⟩ :=
      hkept ⟨0, ∅⟩ rfl [CaseList.onTrue, CaseList.anything, CaseList.twoNames]
    exact ⟨_, rfl, rfl, hresolution, hevaluate, rfl⟩
  · obtain ⟨-, hnew⟩ := run_register_keeps_resolution (α := Nat) {} .detached
      [.setSubject .null, .register CaseList.onTrue]
    obtain ⟨hsome, hlast⟩ := hnew rfl CaseList.anything rfl
    obtain ⟨r, hr⟩ := Option.isSome_iff_exists.mp (hsome.mpr rfl)
    obtain ⟨hindex, -, hmatch⟩ := hlast r hr
    exact ⟨_, rfl, rfl, rfl, r, hr, hindex, hmatch⟩

end EvaluationState

end Casebook
