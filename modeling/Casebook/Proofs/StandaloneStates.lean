import Casebook.Proofs.ArenaRun

/-!
# Casebook.Proofs.StandaloneStates

The states of an arena do not notice each other.

* `call_withHandle` — a live state answers the same under any handle;
* `findLive_run` — what is behind a live handle is its state after the calls addressed to it;
* `perform_eq_call_alone` — an arena answers for a state as the state does by itself.
-/

namespace Casebook

universe u

namespace EvaluationState

variable {α : Type u}

/-! ## the handle does not matter -/

/-- The state under another handle. -/
def withHandle (s : EvaluationState α) (h : Handle) : EvaluationState α := { s with handle := h }

/-- The answer of a live state does not depend on its handle. -/
theorem call_withHandle {s : EvaluationState α} (hl : s.lifecycle ≠ .disposed) (h : Handle)
    (c : Call α) : (s.withHandle h).call c = ((s.call c).1, (s.call c).2.withHandle h) := by
  have hl' : (s.withHandle h).lifecycle ≠ .disposed := hl
  cases c with
  | setSubject subject =>
      rw [call, call, setSubject_of_live hl, setSubject_of_live hl']
      rfl
  | register c =>
      have hcases : (s.withHandle h).cases = s.cases := rfl
      rw [call, call, register, register, if_neg hl, if_neg hl', hcases]
      obtain ⟨answer, cases⟩ := s.cases.register c
      cases answer with
      | error e => rfl
      | ok done => cases done <;> rfl
  | evaluate =>
      have he : (s.withHandle h).evaluate = s.evaluate := by
        rw [evaluate, evaluate, if_neg hl, if_neg hl']
        rfl
      rw [call, call, he]
  | reset =>
      rw [call, call, reset_of_live hl, reset_of_live hl']
      rfl
  | recompute | dispose => rfl

/-- Calls make the same of a state under another handle, as long as it is not disposed of. -/
theorem run_withHandle {s : EvaluationState α} (hl : s.lifecycle ≠ .disposed) (h : Handle)
    {calls : List (Call α)} (hcalls : .dispose ∉ calls) :
    (s.withHandle h).run calls = (s.run calls).withHandle h := by
  induction calls generalizing s with
  | nil => rfl
  | cons c calls ih =>
      rw [List.mem_cons, not_or] at hcalls
      rw [run_cons, run_cons, call_withHandle hl]
      exact ih (lifecycle_call_ne_disposed hl (Ne.symm hcalls.1)) hcalls.2

end EvaluationState

namespace Arena

open EvaluationState (Call)

variable {α : Type u}

/-! ## what is behind a live handle -/

variable {a : Arena α} {op : Operation α} {h : Handle} {s : EvaluationState α}

/-- What is addressed to others leaves the state behind a handle alone. -/
theorem findLive_perform_of_callTo_eq_none (hc : Consistent a) (hop : op.callTo h = none)
    (hf : a.findLive h = .ok s) :
    (a.perform op).2.findLive h = .ok s := by
  rcases perform_cases hc op with ⟨v, h', rfl, hu⟩ | ⟨h', c, t, hop', hf'⟩ | ⟨answer, e, hp, -⟩
  · have hne : h ≠ h' := by
      rintro rfl
      rw [findLive_unusedHandle hc hu] at hf
      cases hf
    exact (findLive_create_of_ne hc hu v hne).trans hf
  · have hne : h ≠ h' := by
      rintro rfl
      rw [Operation.callTo_eq_some_iff.mpr hop'] at hop
      cases hop
    exact (findLive_call_of_ne hc hop' hf' hne).trans hf
  · rw [hp]
    exact hf

/-- Behind a handle that is not disposed of there is the state that got the calls addressed to it,
in order. -/
theorem findLive_run (hc : Consistent a) (hf : a.findLive h = .ok s)
    {ops : List (Operation α)} (hlive : .dispose h ∉ ops) :
    (a.run ops).findLive h = .ok (s.run (ops.filterMap (Operation.callTo h))) := by
  induction ops generalizing a s with
  | nil => exact hf
  | cons op ops ih =>
      rw [List.mem_cons, not_or] at hlive
      have hc' := consistent_perform hc op
      rw [run_cons]
      cases hop : op.callTo h with
      | none =>
          rw [List.filterMap_cons_none hop]
          exact ih hc' (findLive_perform_of_callTo_eq_none hc hop hf) hlive.2
      | some c =>
          have hop' := Operation.callTo_eq_some_iff.mp hop
          have hne : c ≠ .dispose := by
            rintro rfl
            exact hlive.1 (Operation.eq_dispose_of_call? hop').symm
          have hl := EvaluationState.lifecycle_call_ne_disposed (findLive_eq_ok hf).2 hne
          have hf' := findLive_call hc hop' hf
          rw [if_neg hl] at hf'
          rw [List.filterMap_cons_some hop, EvaluationState.run_cons]
          exact ih hc' hf' hlive.2

/-! ## standalone states -/

/-- A state in no arena that is given a subject, and then some calls. -/
def alone (config : Config) (subject : Value) (calls : List (Call α)) : EvaluationState α :=
  ((EvaluationState.new config).setSubject subject).2.run calls

/-- No operation changes the configuration. -/
theorem config_run (hc : Consistent a) (ops : List (Operation α)) :
    (a.run ops).config = a.config := by
  induction ops generalizing a with
  | nil => rfl
  | cons op ops ih => rw [run_cons, ih (consistent_perform hc op), config_perform hc]

/-- What is behind an issued handle is the standalone state that got the same calls. -/
theorem findLive_run_create {config : Config} {before later : List (Operation α)}
    {subject : Value} (hissued : (((new config).run before).create subject).1 = .ok h)
    (hlive : .dispose h ∉ later) :
    ((new config).run (before ++ .create subject :: later)).findLive h =
      .ok ((alone config subject (later.filterMap (Operation.callTo h))).withHandle h) := by
  have hc : Consistent ((new config).run before : Arena α) :=
    consistent_run (consistent_new config) before
  have hu := unusedHandle_of_create hc hissued
  have hcalls : .dispose ∉ later.filterMap (Operation.callTo h) := by
    intro hmem
    obtain ⟨op, hop, hcall⟩ := List.mem_filterMap.mp hmem
    rw [Operation.eq_dispose_of_call? (Operation.callTo_eq_some_iff.mp hcall)] at hop
    exact hlive hop
  have hconfig : ((new config).run before : Arena α).config = config :=
    config_run (consistent_new config) before
  have hf := findLive_create hc hu subject
  have hopened : (opened config h subject : EvaluationState α) =
      (opened config .detached subject).withHandle h := rfl
  rw [hconfig, hopened] at hf
  have hrun := findLive_run (consistent_create hc hu subject) hf hlive
  rw [EvaluationState.run_withHandle (by simp [lifecycle_opened]) h hcalls] at hrun
  rw [run_append]
  exact hrun

/-- An operation addressed to an issued handle is answered as the standalone state would answer
it. -/
theorem perform_run_create {config : Config} {before later : List (Operation α)}
    {subject : Value} (hissued : (((new config).run before).create subject).1 = .ok h)
    (hlive : .dispose h ∉ later) {c : Call α} (hop : op.callTo h = some c) :
    (((new config).run (before ++ .create subject :: later)).perform op).1 =
      ((alone config subject (later.filterMap (Operation.callTo h))).call c).1 := by
  have hf := findLive_run_create hissued hlive
  obtain ⟨free, size, hp, -⟩ := perform_of_ok (consistent_run (consistent_new config) _)
    (Operation.callTo_eq_some_iff.mp hop) hf
  have hl : (alone config subject (later.filterMap (Operation.callTo h))).lifecycle ≠ .disposed :=
    (findLive_eq_ok hf).2
  rw [hp, EvaluationState.call_withHandle hl]

/-- **Each state answers as if it were alone.**  Whatever happened in the arena before a handle
was issued, and whatever else happens to it later, through other handles or through handles that
it never issued, every call of the live state is answered as by a standalone state that got the
same subject and the same calls.  So nothing that is not addressed to a state changes an answer. -/
theorem perform_eq_call_alone (config : Config) (before later : List (Operation α))
    (subject : Value) (h : Handle)
    (hissued : (((new config).run before).create subject).1 = .ok h)
    (hlive : .dispose h ∉ later) :
    (∀ op c, op.callTo h = some c →
      (((new config).run (before ++ .create subject :: later)).perform op).1 =
        ((alone config subject (later.filterMap (Operation.callTo h))).call c).1) ∧
    ∀ before' later', (((new config).run before').create subject).1 = .ok h →
      .dispose h ∉ later' →
      later'.filterMap (Operation.callTo h) = later.filterMap (Operation.callTo h) →
      ∀ op c, op.callTo h = some c →
        (((new config).run (before' ++ .create subject :: later')).perform op).1 =
          (((new config).run (before ++ .create subject :: later)).perform op).1 := by
  refine ⟨fun op c hop => perform_run_create hissued hlive hop, ?_⟩
  intro before' later' hissued' hlive' hsame op c hop
  rw [perform_run_create hissued' hlive' hop, perform_run_create hissued hlive hop, hsame]

/-- A case that takes every value. -/
def onAnything : Case Nat where
  id := ⟨.withPatterns, "anything"⟩
  patterns := [.wildcard]
  guards := []
  handler _ _ := 1
  valid := by decide

/-- A first state is disposed of, so the next one gets its slot. -/
def slotFreed : List (Operation Nat) := [.create .null, .dispose ⟨0, 0⟩]

/-- The new state gets a case, its predecessor's handle is used again, and others come and go. -/
def slotShared : List (Operation Nat) :=
  [.reset ⟨0, 0⟩, .register ⟨0, 1⟩ onAnything, .create .null, .setSubject ⟨7, 3⟩ .null,
    .dispose ⟨1, 0⟩]

/-- The second state of a slot evaluates to the result of its one case, whatever is done meanwhile
by the slot's first handle and to other states. -/
theorem perform_eq_call_alone_slotShared :
    (((new {}).run slotFreed).create (.bool true)).1 = .ok ⟨0, 1⟩ ∧
      .dispose ⟨0, 1⟩ ∉ slotShared ∧
      (((new {}).run (slotFreed ++ .create (.bool true) :: slotShared)).perform
        (.evaluate ⟨0, 1⟩)).1 = .evaluated (.ok (some 1)) ∧
      .dispose ⟨0, 1⟩ ∉ [Operation.register ⟨0, 1⟩ onAnything] ∧
      (((new {}).run (slotFreed ++ [.create (.bool true), .register ⟨0, 1⟩ onAnything])).perform
        (.evaluate ⟨0, 1⟩)).1 =
        (((new {}).run (slotFreed ++ .create (.bool true) :: slotShared)).perform
          (.evaluate ⟨0, 1⟩)).1 := by
  have hissued : (((new {}).run slotFreed).create (.bool true)).1 = .ok ⟨0, 1⟩ := rfl
  have hlive : .dispose ⟨0, 1⟩ ∉ slotShared := by simp [slotShared]
  have hlive' : .dispose ⟨0, 1⟩ ∉ [Operation.register ⟨0, 1⟩ onAnything] := by simp
  obtain ⟨halone, hsame⟩ := perform_eq_call_alone {} slotFreed slotShared _ _ hissued hlive
  exact ⟨hissued, hlive, (halone _ .evaluate rfl).trans rfl, hlive',
    hsame slotFreed _ hissued hlive' rfl _ .evaluate rfl⟩

end Arena

end Casebook
