import Casebook.Proofs.ArenaRun
import Casebook.Proofs.CaseListRun

/-!
# Casebook.Proofs.Refusals

A call that fails, or registers a case that is there already, changes nothing.

* `Answer.isRefusal` — the answers that say so;
* `EvaluationState.eq_of_isRefusal` — states, as long as what they have cached is current;
* `Arena.Settled` — every slot holds such a state; `settled_run` says that it always does;
* `Arena.eq_of_isRefusal` — arenas;
* `unchanged_of_refusal` — lists, states and arenas after any calls.
-/

namespace Casebook

universe u

/-- Whether nothing was to be done: the call failed, or the case was there already. -/
def Answer.isRefusal {α : Type u} : Answer α → Bool
  | .registered (.ok .duplicate) => true
  | answer => answer.error?.isSome

namespace CaseList

variable {α : Type u} {l : CaseList α} {c : Case α}

/-- A list that does not add a case stays as it is. -/
theorem register_eq_self (h : (l.register c).1 ≠ .ok .added) : (l.register c).2 = l := by
  rw [list_register, if_neg (mt register_eq_added_iff.mpr h)]

end CaseList

namespace EvaluationState

variable {α : Type u} {s : EvaluationState α}

/-- Where a case is there already, the state is active. -/
theorem active_of_contains (h : Coherent s) {id : CaseId} (hid : s.cases.contains id = true) :
    s.lifecycle = .active := by
  apply Classical.byContradiction
  intro hl
  obtain ⟨d, hd, -⟩ := CaseList.contains_iff.mp hid
  rw [(h.idle hl).1] at hd
  cases hd

/-- A state that refuses a case stays as it is: a duplicate finds it active with a current
resolution already. -/
theorem register_eq_self (h : Coherent s) {c : Case α}
    (hr : (Answer.registered (s.register c).1 : Answer α).isRefusal = true) :
    (s.register c).2 = s := by
  by_cases hl : s.lifecycle = .disposed
  · rw [register, if_pos hl]
  · rw [register, if_neg hl, CaseList.register] at hr ⊢
    by_cases hid : s.cases.contains c.id = true
    · -- a duplicate makes the state active, which it is
      have hactive : s.lifecycle = .active := active_of_contains h hid
      simp only [if_pos hid, ← hactive]
    · rw [if_neg hid] at hr ⊢
      cases he : s.cases.rejection? c with
      | some e => rfl
      | none =>
          rw [he] at hr
          cases hr

/-- A state that refuses a call stays as it is. -/
theorem eq_of_isRefusal (h : Coherent s) {c : Call α} (hr : (s.call c).1.isRefusal = true) :
    (s.call c).2 = s := by
  cases c with
  | setSubject subject =>
      rw [call] at hr ⊢
      by_cases hl : s.lifecycle = .disposed
      · rw [setSubject, if_pos hl]
        rfl
      · rw [setSubject_of_live hl] at hr
        cases hr
  | register c => exact register_eq_self h hr
  | reset =>
      rw [call] at hr ⊢
      by_cases hl : s.lifecycle = .disposed
      · rw [reset, if_pos hl]
        rfl
      · rw [reset_of_live hl] at hr
        cases hr
  | evaluate => rfl
  | recompute | dispose => cases hr

end EvaluationState

namespace Arena

open EvaluationState (Call Coherent)

variable {α : Type u} {a : Arena α} {op : Operation α}

/-- What every state has cached is current. -/
def Settled (a : Arena α) : Prop :=
  ∀ (i : Nat) (slot : Slot α), a.slots[i]? = some slot → Coherent slot.state

/-- A new arena has no state, so nothing is out of date. -/
theorem settled_new (config : Config) : Settled (new config : Arena α) := by
  intro i s hs
  simp [new] at hs

/-- An operation leaves every state with a current resolution. -/
theorem settled_perform (hc : Consistent a) (h : Settled a) (op : Operation α) :
    Settled (a.perform op).2 := by
  rcases perform_cases hc op with ⟨v, h', rfl, hu⟩ | ⟨h', c, s, hop, hf⟩ | ⟨answer, e, hp, -⟩
  · have hs : Coherent (opened a.config h' v : EvaluationState α) :=
      EvaluationState.coherent_setSubject (EvaluationState.coherent_new a.config h') v
    exact forall_of_replaced (getElem?_create hc hu v) hs fun i t _ => h i t
  · have hs : Coherent (s.call c).2 :=
      EvaluationState.coherent_call (h _ _ (findLive_eq_ok hf).1) c
    exact forall_of_replaced (getElem?_call hc hop hf) hs fun i t _ => h i t
  · rw [hp]
    exact h

/-- After any operations, what every state has cached is current. -/
theorem settled_run (hc : Consistent a) (h : Settled a) (ops : List (Operation α)) :
    Settled (a.run ops) := by
  induction ops generalizing a with
  | nil => exact h
  | cons op ops ih => exact ih (consistent_perform hc op) (settled_perform hc h op)

/-- An arena that refuses an operation stays as it is, with every slot and its free list. -/
theorem eq_of_isRefusal (hc : Consistent a) (h : Settled a)
    (hr : (a.perform op).1.isRefusal = true) : (a.perform op).2 = a := by
  rcases perform_cases hc op with ⟨v, h', rfl, hu⟩ | ⟨h', c, s, hop, hf⟩ | ⟨answer, e, hp, -⟩
  · rw [perform_create hc hu] at hr
    cases hr
  · obtain ⟨free, size, hp, hkind⟩ := perform_of_ok hc hop hf
    rw [hp] at hr ⊢
    have hslot := (findLive_eq_ok hf).1
    rcases hkind with ⟨-, rfl, rfl⟩ | ⟨rfl, -⟩
    · simp only [EvaluationState.eq_of_isRefusal (h _ _ hslot) hr, setIfInBounds_eq_self hslot]
    · -- a live state does not refuse to be disposed of
      cases hr
  · rw [hp]

end Arena

/-- **A refused call changes nothing.**  Lists, states and arenas are exactly what they were before
a call that fails, or that registers a case whose identity is there already. -/
theorem unchanged_of_refusal {α : Type u} :
    (∀ (config : Config) (calls : List (CaseList.Call α)) (c : Case α),
      let l := (CaseList.new config).run calls
      (l.register c).1 = .ok .duplicate ∨ (∃ e, (l.register c).1 = .error e) →
        (l.register c).2 = l) ∧
    (∀ (config : Config) (handle : Handle) (calls : List (EvaluationState.Call α))
        (c : EvaluationState.Call α),
      let s := (EvaluationState.new config handle).run calls
      (s.call c).1.isRefusal = true → (s.call c).2 = s) ∧
    ∀ (config : Config) (ops : List (Arena.Operation α)) (op : Arena.Operation α),
      let a := (Arena.new config).run ops
      (a.perform op).1.isRefusal = true → (a.perform op).2 = a := by
  refine ⟨?_, ?_, ?_⟩
  · intro config calls c l hr
    apply CaseList.register_eq_self
    rcases hr with hr | ⟨e, hr⟩
    · simp [hr]
    · simp [hr]
  · intro config handle calls c s hr
    exact EvaluationState.eq_of_isRefusal
      (EvaluationState.coherent_run (EvaluationState.coherent_new config handle) calls) hr
  · intro config ops op a hr
    have hnew : Arena.Consistent (Arena.new config : Arena α) := Arena.consistent_new config
    exact Arena.eq_of_isRefusal (Arena.consistent_run hnew ops)
      (Arena.settled_run hnew (Arena.settled_new config) ops) hr

/-- A case is registered twice: with a list, with a state, and with a state of an arena, where
another state is disposed of twice besides. -/
theorem unchanged_of_refusal_twice :
    (∃ l : CaseList Nat, l = (CaseList.new {}).run [.register CaseList.onTrue] ∧
      (l.register CaseList.onTrue).1 = .ok .duplicate ∧ (l.register CaseList.onTrue).2 = l) ∧
    (∃ s : EvaluationState Nat,
      s = (EvaluationState.new {} .detached).run
        [.register CaseList.onTrue, .setSubject (.bool true)] ∧
      (s.call (.register CaseList.onTrue)).1.isRefusal = true ∧
      (s.call (.register CaseList.onTrue)).2 = s) ∧
    ∃ a : Arena Nat,
      a = (Arena.new {}).run [.create .null, .register ⟨0, 0⟩ CaseList.onTrue,
        .create (.bool true), .dispose ⟨1, 0⟩] ∧
      (a.perform (.register ⟨0, 0⟩ CaseList.onTrue)).1.isRefusal = true ∧
      (a.perform (.register ⟨0, 0⟩ CaseList.onTrue)).2 = a ∧
      (a.perform (.dispose ⟨1, 0⟩)).1.isRefusal = true ∧ (a.perform (.dispose ⟨1, 0⟩)).2 = a := by
  obtain ⟨hlist, hstate, harena⟩ := unchanged_of_refusal (α := Nat)
  exact ⟨⟨_, rfl, rfl, hlist _ _ _ (.inl rfl)⟩, ⟨_, rfl, rfl, hstate _ _ _ _ rfl⟩,
    ⟨_, rfl, rfl, harena _ _ _ rfl, rfl, harena _ _ _ rfl⟩⟩

end Casebook
