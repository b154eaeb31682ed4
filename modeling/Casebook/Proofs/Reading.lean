import Casebook.Proofs.StateRun

/-!
# Casebook.Proofs.Reading

What a state evaluates to, read off the calls it was given since the last reset.

* `reading` — what some cases make of a subject, with nothing cached;
* `currentCases`, `currentSubject` — the accepted registrations and the last subject since the
  last reset;
* `evaluate_run_eq_reading` — after any calls a state evaluates to that reading.
-/

namespace Casebook.EvaluationState

universe u

variable {α : Type u}

/-- The result of the first case that takes the subject.  Without one there is no result, or an
error where there must be one. -/
def reading (config : Config) (cases : List (Case α)) (subject : Value) :
    Except MatchError (Option α) :=
  match cases.findSome? fun c => c.reading? subject with
  | some result => .ok (some result)
  | none =>
      if config.exhaustive then .error { cause := .nonExhaustive subject.display }
      else .ok none

/-- A live state evaluates to what its cases make of its subject, whatever it has cached. -/
theorem evaluate_eq_reading {s : EvaluationState α} (h : Coherent s)
    (hl : s.lifecycle ≠ .disposed) :
    s.evaluate = reading s.config s.cases.cases s.subject := by
  have hcases : s.snapshot.cases = s.cases.cases := by
    rw [h.snapshot_eq, CaseList.snapshot]
  rw [evaluate, if_neg hl, reading, h.resolution_eq, ← hcases]
  cases hr : s.snapshot.resolve s.subject with
  | some r =>
      obtain ⟨result, hrun, hread⟩ := CaseSnapshot.run_of_resolve hr
      simp only [hrun, hread]
  | none => simp only [CaseSnapshot.findSome?_reading?_of_resolve_none hr]

/-- Where matching must be exhaustive, there is a result or an error. -/
theorem reading_ne_ok_none {config : Config} (h : config.exhaustive = true)
    (cases : List (Case α)) (subject : Value) : reading config cases subject ≠ .ok none := by
  unfold reading
  split
  case h_1 => simp
  case h_2 => simp [h]

/-! ## the calls that count -/

namespace Call

def isReset : Call α → Bool
  | reset => true
  | _ => false

/-- The case that a call registers. -/
def case? : Call α → Option (Case α)
  | register c => some c
  | _ => none

def subject? : Call α → Option Value
  | setSubject subject => some subject
  | _ => none

end Call

/-- The calls after the last reset. -/
def sinceReset (calls : List (Call α)) : List (Call α) :=
  (calls.reverse.takeWhile fun c => !c.isReset).reverse

/-- The cases that some calls register, accepted or not. -/
def registrations (calls : List (Call α)) : List (Case α) := calls.filterMap Call.case?

def currentCases (config : Config) (calls : List (Call α)) : List (Case α) :=
  CaseList.accepted config (registrations (sinceReset calls))

def currentSubject (calls : List (Call α)) : Value :=
  ((sinceReset calls).filterMap Call.subject?).getLast?.getD .undefined

theorem sinceReset_concat (calls : List (Call α)) {c : Call α} (h : c.isReset = false) :
    sinceReset (calls ++ [c]) = sinceReset calls ++ [c] := by
  have hc : (!c.isReset) = true := by rw [h, Bool.not_false]
  rw [sinceReset, List.reverse_concat, List.takeWhile_cons, if_pos hc, List.reverse_cons]
  rfl

/-- A reset leaves no call that counts. -/
theorem sinceReset_concat_reset (calls : List (Call α)) :
    sinceReset (calls ++ [.reset]) = [] := by
  rw [sinceReset, List.reverse_concat, List.takeWhile_cons]
  rfl

/-- One more registration adds its case if the cases so far admit it. -/
theorem currentCases_concat_register (config : Config) (calls : List (Call α)) (c : Case α) :
    currentCases config (calls ++ [.register c]) =
      if CaseList.admits config (currentCases config calls) c then currentCases config calls ++ [c]
      else currentCases config calls := by
  have hr : registrations (sinceReset (calls ++ [.register c])) =
      registrations (sinceReset calls) ++ [c] := by
    rw [sinceReset_concat calls rfl, registrations, List.filterMap_append]
    rfl
  rw [currentCases, hr, CaseList.accepted_concat]
  rfl

/-- Other calls do not change the cases. -/
theorem currentCases_concat (config : Config) (calls : List (Call α)) {c : Call α}
    (hr : c.isReset = false) (hc : c.case? = none) :
    currentCases config (calls ++ [c]) = currentCases config calls := by
  rw [currentCases, sinceReset_concat calls hr, registrations, List.filterMap_append,
    List.filterMap_cons_none hc, List.filterMap_nil, List.append_nil]
  rfl

theorem currentSubject_concat_setSubject (calls : List (Call α)) (subject : Value) :
    currentSubject (calls ++ [.setSubject subject]) = subject := by
  rw [currentSubject, sinceReset_concat calls rfl, List.filterMap_append]
  simp [Call.subject?]

/-- Other calls do not change the subject. -/
theorem currentSubject_concat (calls : List (Call α)) {c : Call α} (hr : c.isReset = false)
    (hs : c.subject? = none) : currentSubject (calls ++ [c]) = currentSubject calls := by
  rw [currentSubject, sinceReset_concat calls hr, List.filterMap_append,
    List.filterMap_cons_none hs, List.filterMap_nil, List.append_nil]
  rfl

/-! ## a state after some calls -/

/-- A live state that has the cases and the subject that these calls leave. -/
structure Reflects (config : Config) (calls : List (Call α)) (s : EvaluationState α) : Prop where
  live : s.lifecycle ≠ .disposed
  cases_eq : s.cases = ⟨config, currentCases config calls⟩
  subject_eq : s.subject = currentSubject calls

variable {config : Config} {calls : List (Call α)} {s : EvaluationState α}

/-- A state that reflects some calls admits the cases that those calls admit. -/
theorem Reflects.admits_eq (h : Reflects config calls s) (c : Case α) :
    CaseList.admits s.config s.cases.cases c =
      CaseList.admits config (currentCases config calls) c := by
  rw [EvaluationState.config, h.cases_eq]

theorem reflects_new (config : Config) (handle : Handle) :
    Reflects config [] (new config handle : EvaluationState α) :=
  ⟨by simp [new], rfl, rfl⟩

/-- A registration adds to the state the case that it adds to the calls. -/
theorem reflects_register (h : Reflects config calls s) (c : Case α) :
    Reflects config (calls ++ [.register c]) (s.register c).2 := by
  have hlive : (s.register c).2.lifecycle ≠ .disposed :=
    lifecycle_call_ne_disposed (c := .register c) h.live (by simp)
  have hsubject : currentSubject (calls ++ [.register c]) = currentSubject calls :=
    currentSubject_concat calls rfl rfl
  have hcases := currentCases_concat_register config calls c
  have hcur := h.admits_eq c
  cases ha : CaseList.admits config (currentCases config calls) c with
  | true =>
      rw [ha, if_pos rfl] at hcases
      rw [register_of_admits h.live (hcur.trans ha)] at hlive ⊢
      refine ⟨hlive, ?_, h.subject_eq.trans hsubject.symm⟩
      rw [hcases]
      simp only [recompute, h.cases_eq]
  | false =>
      rw [ha, if_neg Bool.false_ne_true] at hcases
      obtain ⟨answer, lifecycle, hr, -⟩ := register_of_not_admits h.live (hcur.trans ha)
      rw [hr] at hlive ⊢
      refine ⟨hlive, ?_, h.subject_eq.trans hsubject.symm⟩
      rw [hcases]
      exact h.cases_eq

/-- Whatever call comes next, the state goes on reflecting the calls, unless it is disposed of. -/
theorem reflects_call (h : Reflects config calls s) {c : Call α} (hc : c ≠ .dispose) :
    Reflects config (calls ++ [c]) (s.call c).2 := by
  have hlive := lifecycle_call_ne_disposed h.live hc
  cases c with
  | register c => exact reflects_register h c
  | setSubject subject =>
      have hs : (s.call (.setSubject subject)).2 =
          recompute { s with subject, lifecycle := .active } := by
        rw [call, setSubject_of_live h.live]
        rfl
      rw [hs] at hlive ⊢
      refine ⟨hlive, ?_, (currentSubject_concat_setSubject calls subject).symm⟩
      rw [currentCases_concat config calls rfl rfl]
      exact h.cases_eq
  | reset =>
      have hs : (s.call .reset).2 = { s.clear with lifecycle := .uninitialized } := by
        rw [call, reset_of_live h.live]
        rfl
      rw [hs] at hlive ⊢
      refine ⟨hlive, ?_, ?_⟩
      · rw [currentCases, sinceReset_concat_reset]
        simp only [clear, CaseList.clear, h.cases_eq]
        rfl
      · rw [currentSubject, sinceReset_concat_reset]
        rfl
  | recompute | evaluate =>
      refine ⟨hlive, ?_, ?_⟩
      · rw [currentCases_concat config calls rfl rfl]
        exact h.cases_eq
      · rw [currentSubject_concat calls rfl rfl]
        exact h.subject_eq
  | dispose => exact absurd rfl hc

theorem reflects_run (hs : Reflects config calls s) {calls' : List (Call α)}
    (h : .dispose ∉ calls') :
    Reflects config (calls ++ calls') (s.run calls') := by
  induction calls' generalizing calls s with
  | nil =>
      rw [List.append_nil]
      exact hs
  | cons c calls' ih =>
      rw [List.mem_cons, not_or] at h
      rw [List.append_cons]
      exact ih (reflects_call hs (Ne.symm h.1)) h.2

theorem reflects_run_new (config : Config) (handle : Handle) (h : .dispose ∉ calls) :
    Reflects config calls ((new config handle).run calls) :=
  reflects_run (reflects_new config handle) h

/-- As long as it is not disposed of, a new state evaluates to what the calls since the last reset
make of the subject. -/
theorem evaluate_run (handle : Handle) (h : .dispose ∉ calls) :
    ((new config handle).run calls).evaluate =
      reading config (currentCases config calls) (currentSubject calls) := by
  have hs := reflects_run_new config handle h
  rw [evaluate_eq_reading (coherent_run (coherent_new config handle) calls) hs.live,
    EvaluationState.config, hs.cases_eq, hs.subject_eq]

/-- As long as the state is not disposed of, a case is added exactly if the current cases admit
it. -/
theorem register_run_eq_added_iff (handle : Handle) (h : .dispose ∉ calls) (c : Case α) :
    (((new config handle).run calls).register c).1 = .ok .added ↔
      CaseList.admits config (currentCases config calls) c = true := by
  have hs := reflects_run_new config handle h
  have hcur := hs.admits_eq c
  cases ha : CaseList.admits config (currentCases config calls) c with
  | true => simp [register_of_admits hs.live (hcur.trans ha)]
  | false =>
      obtain ⟨answer, lifecycle, hr, hne, -⟩ := register_of_not_admits hs.live (hcur.trans ha)
      simp [hr, hne]

/-! ## evaluation -/

/-- **A state evaluates to the reading of its calls**: to what the registrations accepted since
the last reset make of the last subject since then.  Registrations answer whether they are
accepted, it does not matter how subjects come between them, and a state that must have a result
never lacks one. -/
theorem evaluate_run_eq_reading (config : Config) (handle : Handle) (calls : List (Call α))
    (h : .dispose ∉ calls) :
    ((new config handle).run calls).evaluate =
        reading config (currentCases config calls) (currentSubject calls) ∧
      (∀ c, (((new config handle).run calls).register c).1 = .ok .added ↔
        CaseList.admits config (currentCases config calls) c = true) ∧
      (∀ calls', .dispose ∉ calls' →
        registrations (sinceReset calls') = registrations (sinceReset calls) →
        currentSubject calls' = currentSubject calls →
        ((new config handle).run calls').evaluate = ((new config handle).run calls).evaluate) ∧
      (config.exhaustive = true → ((new config handle).run calls).evaluate ≠ .ok none) := by
  refine ⟨evaluate_run handle h, register_run_eq_added_iff handle h, ?_, ?_⟩
  · intro calls' h' hcases hsubject
    have hcur : currentCases config calls' = currentCases config calls := by
      rw [currentCases, hcases]
      rfl
    rw [evaluate_run handle h', evaluate_run handle h, hcur, hsubject]
  · intro hex
    rw [evaluate_run handle h]
    exact reading_ne_ok_none hex _ _

/-- A case that takes `null`. -/
def onNull : Case Nat where
  id := ⟨.withPatterns, "null"⟩
  patterns := [.literal .null]
  guards := []
  handler _ _ := 1
  valid := by decide

/-- The case is registered anew after a reset, once more in vain, and then the subject comes. -/
def resetAndRegister : List (Call Nat) :=
  [.setSubject .null, .register onNull, .reset, .register onNull, .register onNull,
    .setSubject (.bool true), .recompute]

/-- No case takes the last subject, whatever subjects came before it.  With one more subject there
is a result: that of the case, which was registered after the reset. -/
theorem evaluate_run_eq_reading_resetAndRegister :
    .dispose ∉ resetAndRegister ∧
      ((new ⟨true, false⟩).run resetAndRegister).evaluate =
        .error { cause := .nonExhaustive "true" } ∧
      (((new ⟨true, false⟩).run resetAndRegister).register onNull).1 ≠ .ok .added ∧
      ((new ⟨true, false⟩).run [.register onNull, .setSubject .null, .register onNull,
        .setSubject (.bool true)]).evaluate =
          ((new ⟨true, false⟩).run resetAndRegister).evaluate ∧
      ((new ⟨true, false⟩).run resetAndRegister).evaluate ≠ .ok none ∧
      .dispose ∉ resetAndRegister ++ [.setSubject .null] ∧
      ((new ⟨true, false⟩).run (resetAndRegister ++ [.setSubject .null])).evaluate =
        .ok (some 1) := by
  have hcalls : .dispose ∉ resetAndRegister := by simp [resetAndRegister]
  have hcalls' : .dispose ∉ resetAndRegister ++ [.setSubject .null] := by simp [resetAndRegister]
  obtain ⟨heq, hadded, hsame, hnone⟩ :=
    evaluate_run_eq_reading ⟨true, false⟩ .detached resetAndRegister hcalls
  obtain ⟨heq', -, -, -⟩ := evaluate_run_eq_reading ⟨true, false⟩ .detached
    (resetAndRegister ++ [.setSubject .null]) hcalls'
  refine ⟨hcalls, heq.trans rfl, ?_, hsame _ (by simp) rfl rfl, hnone rfl, hcalls',
    heq'.trans rfl⟩
  rw [Ne, hadded]
  decide

end Casebook.EvaluationState
