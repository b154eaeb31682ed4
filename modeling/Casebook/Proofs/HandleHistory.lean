import Casebook.Proofs.ArenaRun

/-!
# Casebook.Proofs.HandleHistory

What an arena says of a handle is what happened to it, although a slot only keeps its current
generation.

* `Arena.Issued`, `Arena.Disposed` — what some operations and their answers say of a handle;
* `Recorded` — what an arena finds behind a handle agrees with them; `recorded_run` says that it
  always does;
* `perform_run_log` — which error a handle of each history gets.
-/

namespace Casebook.Arena

open EvaluationState (Call)

universe u

variable {α : Type u}

/-! ## histories -/

/-- The handle was issued. -/
def Issued (log : List (Operation α × Answer α)) (h : Handle) : Prop :=
  ∃ subject, (.create subject, .issued (.ok h)) ∈ log

/-- The handle's state was disposed of. -/
def Disposed (log : List (Operation α × Answer α)) (h : Handle) : Prop :=
  (.dispose h, .done (.ok ())) ∈ log

variable {log : List (Operation α × Answer α)} {a : Arena α} {op : Operation α} {h : Handle}
  {c : Call α} {s : EvaluationState α}

/-- One more operation issues a handle iff it is a creation that is answered with it. -/
theorem issued_concat {answer : Answer α} :
    Issued (log ++ [(op, answer)]) h ↔
      Issued log h ∨ ∃ subject, op = .create subject ∧ answer = .issued (.ok h) := by
  simp only [Issued, List.mem_append, List.mem_singleton, Prod.mk.injEq, exists_or, eq_comm]

/-- One more operation disposes of a handle's state iff it is a disposal, through that handle, that
succeeds. -/
theorem disposed_concat {answer : Answer α} :
    Disposed (log ++ [(op, answer)]) h ↔
      Disposed log h ∨ (op = .dispose h ∧ answer = .done (.ok ())) := by
  simp only [Disposed, List.mem_append, List.mem_singleton, Prod.mk.injEq, eq_comm]

theorem unknownError_ne_disposedError (h : Handle) : unknownError h ≠ disposedError h := by
  simp [unknownError, disposedError]

/-- What is behind a handle is what the log says of it. -/
structure Recorded (log : List (Operation α × Answer α)) (a : Arena α) : Prop where
  issued_iff : ∀ h, Issued log h ↔ a.findLive h ≠ .error (unknownError h)
  disposed_iff : ∀ h, Disposed log h ↔ a.findLive h = .error (disposedError h)

/-- Of an empty arena nothing is recorded, and nothing is found. -/
theorem recorded_new (config : Config) : Recorded [] (new config : Arena α) := by
  have hf : ∀ h, (new config : Arena α).findLive h = .error (unknownError h) :=
    fun h => findLive_of_none (by simp [new])
  refine ⟨fun h => ?_, fun h => ?_⟩
  · simp [Issued, hf]
  · simp [Disposed, hf, unknownError_ne_disposedError]

/-- A creation issues its handle, and what is found behind the others stays. -/
theorem recorded_create (hc : Consistent a) (hr : Recorded log a)
    (hh : a.unusedHandle = .ok h) (subject : Value) :
    Recorded (log ++ [(.create subject, .issued (.ok h))]) (a.create subject).2 := by
  have hbefore := findLive_unusedHandle hc hh
  have hafter := findLive_create hc hh subject
  refine ⟨fun h' => ?_, fun h' => ?_⟩
  · rw [issued_concat, hr.issued_iff]
    by_cases hh' : h' = h
    · rw [hh', hafter]
      simp
    · rw [findLive_create_of_ne hc hh subject hh', or_iff_left]
      rintro ⟨subject', -, hanswer⟩
      cases hanswer
      exact hh' rfl
  · rw [disposed_concat, hr.disposed_iff, or_iff_left (by simp)]
    by_cases hh' : h' = h
    · rw [hh', hafter, hbefore, Except.error.injEq]
      simp [unknownError_ne_disposedError]
    · rw [findLive_create_of_ne hc hh subject hh']

/-- A call of a live state issues nothing, and disposes of nothing unless it is a disposal. -/
theorem recorded_call (hc : Consistent a) (hr : Recorded log a)
    (hop : op.call? = some (h, c)) (hf : a.findLive h = .ok s) :
    Recorded (log ++ [(op, (a.perform op).1)]) (a.perform op).2 := by
  have hafter := findLive_call hc hop hf
  refine ⟨fun h' => ?_, fun h' => ?_⟩
  · have hnew : ¬ ∃ subject, op = .create subject ∧ (a.perform op).1 = .issued (.ok h') := by
      rintro ⟨subject, rfl, -⟩
      cases hop
    rw [issued_concat, hr.issued_iff, or_iff_left hnew]
    by_cases hh' : h' = h
    · rw [hh', hafter, hf]
      split
      case isTrue => simp [(unknownError_ne_disposedError h).symm]
      case isFalse => simp
    · rw [findLive_call_of_ne hc hop hf hh']
  · rw [disposed_concat, hr.disposed_iff]
    by_cases hh' : h' = h
    · rw [hh', hafter, hf]
      by_cases hcall : c = .dispose
      · subst hcall
        obtain ⟨free, size, hp, -⟩ := perform_of_ok hc hop hf
        have hdisposed : (s.call .dispose).2.lifecycle = .disposed := rfl
        have hanswer : (s.call .dispose).1 = .done (.ok ()) := rfl
        rw [hp, if_pos hdisposed]
        simp [Operation.eq_dispose_of_call? hop, hanswer]
      · have hl := EvaluationState.lifecycle_call_ne_disposed (findLive_eq_ok hf).2 hcall
        have hnew : op ≠ .dispose h := by
          rintro rfl
          cases hop
          exact hcall rfl
        rw [if_neg hl]
        simp [hnew]
    · rw [findLive_call_of_ne hc hop hf hh', or_iff_left]
      rintro ⟨rfl, -⟩
      cases hop
      exact hh' rfl

/-- A failure leaves no trace. -/
theorem recorded_error (hr : Recorded log a)
    (op : Operation α) {answer : Answer α} {e : MatchError} (he : answer.error? = some e) :
    Recorded (log ++ [(op, answer)]) a := by
  refine ⟨fun h => ?_, fun h => ?_⟩
  · rw [issued_concat, hr.issued_iff, or_iff_left]
    rintro ⟨subject, -, rfl⟩
    cases he
  · rw [disposed_concat, hr.disposed_iff, or_iff_left]
    rintro ⟨-, rfl⟩
    cases he

theorem recorded_perform (hc : Consistent a) (hr : Recorded log a) (op : Operation α) :
    Recorded (log ++ [(op, (a.perform op).1)]) (a.perform op).2 := by
  rcases perform_cases hc op with ⟨v, h, rfl, hu⟩ | ⟨h, c, s, hop, hf⟩ | ⟨answer, e, hp, he⟩
  · rw [perform_create hc hu]
    exact recorded_create hc hr hu v
  · exact recorded_call hc hr hop hf
  · rw [hp]
    exact recorded_error hr op he

/-- The record is right after any operations, since each of them keeps it so. -/
theorem recorded_run (hc : Consistent a) (hr : Recorded log a) (ops : List (Operation α)) :
    Recorded (log ++ a.log ops) (a.run ops) := by
  induction ops generalizing log a with
  | nil =>
      rw [Arena.log, List.append_nil]
      exact hr
  | cons op ops ih =>
      rw [Arena.log, List.append_cons]
      exact ih (consistent_perform hc op) (recorded_perform hc hr op)

/-! ## what a history means -/

/-- A handle was not issued iff it is ahead of its slot. -/
theorem not_issued_iff (hc : Consistent a) (hr : Recorded log a) (h : Handle) :
    ¬ Issued log h ↔
      ∀ s, a.slots[h.index]? = some s → s.handle.generation < h.generation := by
  rw [hr.issued_iff, Classical.not_not]
  -- the state in a slot has the handle of the slot's generation
  have hslot : (∀ s, a.slots[h.index]? = some s → s.handle.generation < h.generation) ↔
      ∀ s, a.slots[h.index]? = some s → s.generation < h.generation := by
    refine forall_congr' fun s => imp_congr_right fun hs => ?_
    rw [hc.handle_eq _ s hs]
  rw [hslot]
  rcases findLive_cases a h with ⟨hf, hs⟩ | ⟨hf, s, hs, hg⟩ | ⟨s, hf, hs, -⟩
  · exact ⟨fun _ => hs, fun _ => hf⟩
  · refine ⟨fun hf' => ?_, fun hahead => absurd (hahead s hs) (by omega)⟩
    rw [hf, Except.error.injEq] at hf'
    exact absurd hf'.symm (unknownError_ne_disposedError h)
  · refine ⟨fun hf' => ?_, fun hahead => absurd (hahead _ hs) (Nat.lt_irrefl _)⟩
    rw [hf] at hf'
    cases hf'

/-- The handle of a new state was never issued before. -/
theorem not_issued_of_create (hc : Consistent a) (hr : Recorded log a) {subject : Value}
    (hh : (a.create subject).1 = .ok h) : ¬ Issued log h := by
  rw [hr.issued_iff, Classical.not_not]
  exact findLive_unusedHandle hc (unusedHandle_of_create hc hh)

/-- The handle of a state in no arena is never issued: its slot is beyond the last one. -/
theorem not_issued_detached (hc : Consistent a) (hr : Recorded log a) : ¬ Issued log .detached := by
  rw [not_issued_iff hc hr]
  intro s hs
  obtain ⟨hlt, -⟩ := Array.getElem?_eq_some_iff.mp hs
  exact absurd hc.size_le (Nat.not_le.mpr hlt)

/-- Until it is disposed of, a state that was issued is not missed. -/
theorem cause_of_issued (hc : Consistent a) (hr : Recorded log a)
    (hop : op.callTo h = some c) (hi : Issued log h) (hd : ¬ Disposed log h) {e : MatchError}
    (he : (a.perform op).1.error? = some e) (i : Nat) :
    e.cause ≠ .unknownState i ∧ e.cause ≠ .disposed i := by
  rw [hr.issued_iff] at hi
  rw [hr.disposed_iff] at hd
  rcases findLive_cases a h with ⟨hf, -⟩ | ⟨hf, -⟩ | ⟨s, hf, -, hl⟩
  · exact absurd hf hi
  · exact absurd hf hd
  · obtain ⟨free, size, hp, -⟩ := perform_of_ok hc (Operation.callTo_eq_some_iff.mp hop) hf
    rw [hp] at he
    rcases EvaluationState.cause_of_call hl he with hconfig | ⟨text, hcause⟩
    · constructor
      · intro hcause
        rw [hcause] at hconfig
        cases hconfig
      · intro hcause
        rw [hcause] at hconfig
        cases hconfig
    · rw [hcause]
      exact ⟨by simp, by simp⟩

/-- **The history of a handle decides how its calls fail.**  A handle is issued once.  As long as
its state is not disposed of, no call of it says that there is no such state.  Afterwards every
call says that the state was disposed of, however often its slot was reused, and a handle that was
never issued is unknown; either way nothing changes, so no call through such a handle reaches
another state.  Exactly the handles ahead of their slot were never issued, the one of states that
are in no arena among them. -/
theorem perform_run_log (config : Config) (ops : List (Operation α)) :
    (∀ subject h, (((new config).run ops).create subject).1 = .ok h →
      ¬ Issued ((new config).log ops) h) ∧
    (∀ h op c, op.callTo h = some c →
      (Issued ((new config).log ops) h → ¬ Disposed ((new config).log ops) h →
        ∀ e, (((new config).run ops).perform op).1.error? = some e →
          ∀ i, e.cause ≠ .unknownState i ∧ e.cause ≠ .disposed i) ∧
      (Issued ((new config).log ops) h → Disposed ((new config).log ops) h →
        ∃ answer, ((new config).run ops).perform op = (answer, (new config).run ops) ∧
          answer.error? = some (disposedError h)) ∧
      (¬ Issued ((new config).log ops) h →
        ∃ answer, ((new config).run ops).perform op = (answer, (new config).run ops) ∧
          answer.error? = some (unknownError h))) ∧
    (∀ h, ¬ Issued ((new config).log ops) h ↔
      ∀ s, ((new config).run ops).slots[h.index]? = some s →
        s.handle.generation < h.generation) ∧
    ¬ Issued ((new config).log ops) .detached := by
  have hc : Consistent ((new config).run ops : Arena α) :=
    consistent_run (consistent_new config) ops
  have hr : Recorded ((new config).log ops) ((new config).run ops) :=
    recorded_run (consistent_new config) (recorded_new config) ops
  refine ⟨fun subject h hh => not_issued_of_create hc hr hh, fun h op c hop => ⟨?_, ?_, ?_⟩,
    not_issued_iff hc hr, not_issued_detached hc hr⟩
  · exact fun hi hd e he => cause_of_issued hc hr hop hi hd he
  · intro _ hd
    exact perform_of_error hc (Operation.callTo_eq_some_iff.mp hop) ((hr.disposed_iff h).mp hd)
  · intro hi
    rw [hr.issued_iff, Classical.not_not] at hi
    exact perform_of_error hc (Operation.callTo_eq_some_iff.mp hop) hi

/-- One slot has had two states, and the second one is live. -/
def slotReused : List (Operation Nat) :=
  [.create .null, .dispose ⟨0, 0⟩, .create (.bool true)]

/-- The first handle of the slot is that of a disposed state, the second one leads to a live state,
and that of the next slot is unknown as yet. -/
theorem perform_run_log_slotReused :
    (((new ⟨true, false⟩).run slotReused).create .null).1 = .ok ⟨1, 0⟩ ∧
      ¬ Issued ((new ⟨true, false⟩).log slotReused) ⟨1, 0⟩ ∧
      Issued ((new ⟨true, false⟩).log slotReused) ⟨0, 1⟩ ∧
      ¬ Disposed ((new ⟨true, false⟩).log slotReused) ⟨0, 1⟩ ∧
      (((new ⟨true, false⟩).run slotReused).perform (.evaluate ⟨0, 1⟩)).1.error? =
        some { cause := .nonExhaustive "true" } ∧
      MatchError.Cause.nonExhaustive "true" ≠ .disposed 0 ∧
      Issued ((new ⟨true, false⟩).log slotReused) ⟨0, 0⟩ ∧
      Disposed ((new ⟨true, false⟩).log slotReused) ⟨0, 0⟩ ∧
      (∃ answer, ((new ⟨true, false⟩).run slotReused).perform (.evaluate ⟨0, 0⟩) =
          (answer, (new ⟨true, false⟩).run slotReused) ∧
        answer.error? = some { cause := .disposed 0 }) ∧
      ∃ answer, ((new ⟨true, false⟩).run slotReused).perform (.evaluate ⟨1, 0⟩) =
          (answer, (new ⟨true, false⟩).run slotReused) ∧
        answer.error? = some { cause := .unknownState 1 } := by
  have hlog : (new ⟨true, false⟩).log slotReused =
      [(.create .null, .issued (.ok ⟨0, 0⟩)), (.dispose ⟨0, 0⟩, .done (.ok ())),
        (.create (.bool true), .issued (.ok ⟨0, 1⟩))] := rfl
  have hlive : Issued ((new ⟨true, false⟩).log slotReused) ⟨0, 1⟩ :=
    ⟨.bool true, by simp [hlog]⟩
  have hkept : ¬ Disposed ((new ⟨true, false⟩).log slotReused) ⟨0, 1⟩ := by
    simp [Disposed, hlog]
  have hold : Issued ((new ⟨true, false⟩).log slotReused) ⟨0, 0⟩ := ⟨.null, by simp [hlog]⟩
  have hgone : Disposed ((new ⟨true, false⟩).log slotReused) ⟨0, 0⟩ := by
    simp [Disposed, hlog]
  obtain ⟨hfresh, herror, -⟩ := perform_run_log ⟨true, false⟩ slotReused
  have hnext := hfresh .null ⟨1, 0⟩ rfl
  exact ⟨rfl, hnext, hlive, hkept, rfl,
    ((herror ⟨0, 1⟩ (.evaluate ⟨0, 1⟩) .evaluate rfl).1 hlive hkept _ rfl 0).2, hold, hgone,
    (herror ⟨0, 0⟩ (.evaluate ⟨0, 0⟩) .evaluate rfl).2.1 hold hgone,
    (herror ⟨1, 0⟩ (.evaluate ⟨1, 0⟩) .evaluate rfl).2.2 hnext⟩

end Casebook.Arena
