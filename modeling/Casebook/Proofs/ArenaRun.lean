import Casebook.Arena
import Casebook.Proofs.StateRun

/-!
# Casebook.Proofs.ArenaRun

Runs of an arena: any operations through any handles, one after the other, whatever they answer.

* `Arena.perform`, `run`, `log` — one operation with its answer, the arena after some operations,
  and their answers in order;
* `Consistent` — states carry the handles of their slots, and free slots are disposed of;
  `consistent_run` says that it holds after any operations;
* `perform_cases`, `perform_of_error`, `perform_of_ok`, `create_eq` — all that an operation can do;
* `findLive_create`, `findLive_call` — what is behind a handle afterwards, and that nothing
  changes behind the others.
-/

namespace Casebook

universe u v

namespace Arena

open EvaluationState (Call)

variable {α : Type u}

/-- An operation of an arena. -/
inductive Operation (α : Type u) where
  | create (subject : Value)
  | register (h : Handle) (c : Case α)
  | setSubject (h : Handle) (subject : Value)
  | evaluate (h : Handle)
  | reset (h : Handle)
  | dispose (h : Handle)

/-- The handle that an operation is addressed to, and the call that it makes of the state. -/
def Operation.call? : Operation α → Option (Handle × Call α)
  | create _ => none
  | register h c => some (h, .register c)
  | setSubject h subject => some (h, .setSubject subject)
  | evaluate h => some (h, .evaluate)
  | reset h => some (h, .reset)
  | dispose h => some (h, .dispose)

/-- The call that an operation makes of the state behind this handle. -/
def Operation.callTo (h : Handle) (op : Operation α) : Option (Call α) :=
  op.call?.bind fun (h', c) => if h' = h then some c else none

/-- A call reaches a handle iff the operation is addressed to it. -/
theorem Operation.callTo_eq_some_iff {h : Handle} {op : Operation α} {c : Call α} :
    op.callTo h = some c ↔ op.call? = some (h, c) := by
  rw [callTo]
  cases op.call? with
  | none => simp
  | some call =>
      obtain ⟨h', c'⟩ := call
      simp only [Option.bind_some, Option.ite_none_right_eq_some, Option.some.injEq, Prod.mk.injEq]

/-- Nothing but disposal calls for disposal. -/
theorem Operation.eq_dispose_of_call? {h : Handle} {op : Operation α}
    (hop : op.call? = some (h, .dispose)) : op = .dispose h := by
  cases op <;> cases hop
  rfl

/-- The answer to an operation, and the arena after it. -/
def perform (a : Arena α) : Operation α → Answer α × Arena α
  | .create subject => (a.create subject).map .issued id
  | .register h c => (a.register h c).map .registered id
  | .setSubject h subject => (a.setSubject h subject).map .done id
  | .evaluate h => (.evaluated (a.evaluate h), a)
  | .reset h => (a.reset h).map .done id
  | .dispose h => (a.dispose h).map .done id

/-- The arena after some operations. -/
def run (a : Arena α) (ops : List (Operation α)) : Arena α :=
  ops.foldl (fun a op => (a.perform op).2) a

/-- Some operations with their answers. -/
def log (a : Arena α) : List (Operation α) → List (Operation α × Answer α)
  | [] => []
  | op :: ops => (op, (a.perform op).1) :: (a.perform op).2.log ops

/-- An arena without states. -/
def new (config : Config) : Arena α := { config }

@[simp] theorem run_cons (a : Arena α) (op : Operation α) (ops : List (Operation α)) :
    a.run (op :: ops) = (a.perform op).2.run ops := rfl

theorem run_append (a : Arena α) (ops ops' : List (Operation α)) :
    a.run (ops ++ ops') = (a.run ops).run ops' := by
  rw [run, List.foldl_append]
  rfl

/-! ## what is behind a handle -/

variable {a : Arena α} {op : Operation α} {h : Handle} {c : Call α} {s : EvaluationState α}
  {slot : Slot α}

/-- Two handles of one slot differ in their generations. -/
theorem generation_ne_of_ne {h' : Handle} (hi : h'.index = h.index) (hne : h' ≠ h) :
    h'.generation ≠ h.generation := by
  intro hg
  cases h
  cases h'
  simp only at hi hg
  exact hne (by rw [hi, hg])

/-- What is behind a handle depends on its slot alone. -/
theorem findLive_eq_of_getElem? {a b : Arena α}
    (hs : b.slots[h.index]? = a.slots[h.index]?) : b.findLive h = a.findLive h := by
  rw [findLive, findLive, find, find, hs]

/-- A handle of a slot that does not exist is unknown. -/
theorem findLive_of_none (hs : a.slots[h.index]? = none) :
    a.findLive h = .error (unknownError h) := by
  rw [findLive, find, hs]

/-- A handle of an earlier generation is that of a disposed state. -/
theorem findLive_of_lt (hs : a.slots[h.index]? = some slot) (hg : h.generation < slot.generation) :
    a.findLive h = .error (disposedError h) := by
  rw [findLive, find, hs]
  simp only [if_neg (Nat.ne_of_lt hg), if_pos hg]

/-- A handle of a later generation is unknown. -/
theorem findLive_of_gt (hs : a.slots[h.index]? = some slot) (hg : slot.generation < h.generation) :
    a.findLive h = .error (unknownError h) := by
  rw [findLive, find, hs]
  simp only [if_neg (Nat.ne_of_gt hg), if_neg (Nat.lt_asymm hg)]

/-- A handle of the current generation leads to the slot's state, unless that is disposed of. -/
theorem findLive_of_eq (hs : a.slots[h.index]? = some slot) (hg : h.generation = slot.generation) :
    a.findLive h =
      if slot.lifecycle = .disposed then .error (disposedError h) else .ok slot.state := by
  rw [findLive, find, hs]
  simp only [if_pos hg]

/-- A handle is ahead of its slot, its state is gone, or it leads to a live state. -/
theorem findLive_cases (a : Arena α) (h : Handle) :
    (a.findLive h = .error (unknownError h) ∧
      ∀ slot, a.slots[h.index]? = some slot → slot.generation < h.generation) ∨
    (a.findLive h = .error (disposedError h) ∧
      ∃ slot, a.slots[h.index]? = some slot ∧ h.generation ≤ slot.generation) ∨
    ∃ s, a.findLive h = .ok s ∧ a.slots[h.index]? = some ⟨s, h.generation⟩ ∧
      s.lifecycle ≠ .disposed := by
  cases hs : a.slots[h.index]? with
  | none => exact .inl ⟨findLive_of_none hs, by simp⟩
  | some slot =>
      rcases Nat.lt_trichotomy h.generation slot.generation with hg | hg | hg
      · exact .inr (.inl ⟨findLive_of_lt hs hg, slot, rfl, Nat.le_of_lt hg⟩)
      · by_cases hl : slot.lifecycle = .disposed
        · refine .inr (.inl ⟨?_, slot, rfl, Nat.le_of_eq hg⟩)
          rw [findLive_of_eq hs hg, if_pos hl]
        · refine .inr (.inr ⟨slot.state, ?_, by rw [hg], hl⟩)
          rw [findLive_of_eq hs hg, if_neg hl]
      · refine .inl ⟨findLive_of_gt hs hg, fun t ht => ?_⟩
        obtain rfl := Option.some.inj ht
        exact hg

/-- A state that is found stands in the slot of its handle, under its generation. -/
theorem findLive_eq_ok (hf : a.findLive h = .ok s) :
    a.slots[h.index]? = some ⟨s, h.generation⟩ ∧ s.lifecycle ≠ .disposed := by
  rcases findLive_cases a h with ⟨he, -⟩ | ⟨he, -⟩ | ⟨t, ht, hs⟩
  · rw [he] at hf
    cases hf
  · rw [he] at hf
    cases hf
  · rw [ht] at hf
    obtain rfl := Except.ok.inj hf
    exact hs

/-! ## the invariant -/

/-- A state's handle is that of its slot, and what is free is disposed of and listed once. -/
structure Consistent (a : Arena α) : Prop where
  handle_eq : ∀ i (slot : Slot α), a.slots[i]? = some slot → slot.handle = ⟨i, slot.generation⟩
  free_disposed : ∀ i ∈ a.free, ∃ slot : Slot α,
    a.slots[i]? = some slot ∧ slot.lifecycle = .disposed
  free_nodup : a.free.Nodup
  size_le : a.slots.size ≤ Handle.limit

/-- An arena without slots has nothing to be wrong. -/
theorem consistent_new (config : Config) : Consistent (new config : Arena α) where
  handle_eq i slot hs := by simp [new] at hs
  free_disposed i hi := by simp [new] at hi
  free_nodup := List.nodup_nil
  size_le := by simp [new]

/-- Evaluation, which does not ask for a live state first, fails as if it did. -/
theorem evaluate_eq (hc : Consistent a) (h : Handle) :
    a.evaluate h = (a.findLive h).bind EvaluationState.evaluate := by
  rw [evaluate, findLive]
  cases hf : a.find h with
  | error e => rfl
  | ok s =>
      have hindex : s.handle.index = h.index := by
        unfold find at hf
        split at hf
        case h_1 => cases hf
        case h_2 slot hslot =>
            split at hf
            case isTrue => rw [← Except.ok.inj hf, hc.handle_eq _ slot hslot]
            case isFalse => split at hf <;> cases hf
      by_cases hl : s.lifecycle = .disposed
      · simp only [if_pos hl, Except.bind]
        rw [EvaluationState.evaluate, if_pos hl, EvaluationState.disposedError, disposedError,
          hindex]
      · simp only [if_neg hl, Except.bind]

/-! ## what an operation does -/

/-- Replacing the occupant of a slot changes that slot and no other. -/
theorem getElem?_setIfInBounds_of_some {slots : Array (Slot α)} {i : Nat}
    {old : Slot α} (hi : slots[i]? = some old) (slot : Slot α) (j : Nat) :
    (slots.setIfInBounds i slot)[j]? = if j = i then some slot else slots[j]? := by
  obtain ⟨hlt, -⟩ := Array.getElem?_eq_some_iff.mp hi
  rw [Array.getElem?_setIfInBounds, if_pos hlt]
  by_cases hj : j = i
  · rw [if_pos hj.symm, if_pos hj]
  · rw [if_neg (Ne.symm hj), if_neg hj]

/-- Putting the occupant of a slot into it changes nothing. -/
theorem setIfInBounds_eq_self {slots : Array (Slot α)} {i : Nat}
    (hi : slots[i]? = some slot) : slots.setIfInBounds i slot = slots := by
  apply Array.ext_getElem?
  intro j
  rw [getElem?_setIfInBounds_of_some hi]
  split
  case isTrue hj => rw [hj, hi]
  case isFalse => rfl

theorem modify_eq_setIfInBounds {slots : Array (Slot α)} {i : Nat}
    (hi : slots[i]? = some slot) (f : Slot α → Slot α) :
    slots.modify i f = slots.setIfInBounds i (f slot) := by
  apply Array.ext_getElem?
  intro j
  rw [Array.getElem?_modify, getElem?_setIfInBounds_of_some hi]
  by_cases hj : j = i
  · rw [if_pos hj.symm, if_pos hj, hj, hi, Option.map_some]
  · rw [if_neg (Ne.symm hj), if_neg hj]

/-- Without a live state an operation fails, and the arena stays as it is. -/
theorem update_of_error {β : Type v} {e : MatchError} (hf : a.findLive h = .error e)
    (operation : EvaluationState α → Except MatchError β × EvaluationState α) :
    a.update h operation = (.error e, a) := by
  rw [update, hf]

/-- An operation on a live state is answered by it, and puts the changed state into the same slot
under the same generation. -/
theorem update_of_ok {β : Type v} (hf : a.findLive h = .ok s)
    (operation : EvaluationState α → Except MatchError β × EvaluationState α) :
    a.update h operation = ((operation s).1,
      { a with slots := a.slots.setIfInBounds h.index ⟨(operation s).2, h.generation⟩ }) := by
  rw [update, hf]
  simp only [modify_eq_setIfInBounds (findLive_eq_ok hf).1]

/-- Without a live state every call fails alike, and changes nothing. -/
theorem perform_of_error (hc : Consistent a) (hop : op.call? = some (h, c)) {e : MatchError}
    (hf : a.findLive h = .error e) :
    ∃ answer, a.perform op = (answer, a) ∧ answer.error? = some e := by
  cases op with
  | create subject => cases hop
  | register h c =>
      cases hop
      exact ⟨.registered (.error e), by rw [perform, register, update_of_error hf]; rfl, rfl⟩
  | setSubject h subject =>
      cases hop
      exact ⟨.done (.error e), by rw [perform, setSubject, update_of_error hf]; rfl, rfl⟩
  | evaluate h =>
      cases hop
      exact ⟨.evaluated (.error e), by rw [perform, evaluate_eq hc, hf]; rfl, rfl⟩
  | reset h =>
      cases hop
      exact ⟨.done (.error e), by rw [perform, reset, update_of_error hf]; rfl, rfl⟩
  | dispose h =>
      cases hop
      exact ⟨.done (.error e), by rw [perform, dispose, update_of_error hf]; rfl, rfl⟩

/-- A call of a live state is answered by that state, which takes its own place again.  Only
disposal does more: it frees the slot. -/
theorem perform_of_ok (hc : Consistent a) (hop : op.call? = some (h, c))
    (hf : a.findLive h = .ok s) :
    ∃ free size, a.perform op = ((s.call c).1,
        { a with
          slots := a.slots.setIfInBounds h.index ⟨(s.call c).2, h.generation⟩, free, size }) ∧
      ((c ≠ .dispose ∧ free = a.free ∧ size = a.size) ∨
        (c = .dispose ∧ size = a.size - 1 ∧
          free = if h.generation < Handle.limit then h.index :: a.free else a.free)) := by
  cases op with
  | create subject => cases hop
  | register h c =>
      cases hop
      refine ⟨a.free, a.size, ?_, .inl ⟨by simp, rfl, rfl⟩⟩
      rw [perform, register, update_of_ok hf]
      rfl
  | setSubject h subject =>
      cases hop
      refine ⟨a.free, a.size, ?_, .inl ⟨by simp, rfl, rfl⟩⟩
      rw [perform, setSubject, update_of_ok hf]
      rfl
  | evaluate h =>
      cases hop
      refine ⟨a.free, a.size, ?_, .inl ⟨by simp, rfl, rfl⟩⟩
      have hslots : a.slots.setIfInBounds h.index ⟨s, h.generation⟩ = a.slots :=
        setIfInBounds_eq_self (findLive_eq_ok hf).1
      rw [perform, evaluate_eq hc, hf]
      simp only [EvaluationState.call, hslots]
      rfl
  | reset h =>
      cases hop
      refine ⟨a.free, a.size, ?_, .inl ⟨by simp, rfl, rfl⟩⟩
      rw [perform, reset, update_of_ok hf]
      rfl
  | dispose h =>
      cases hop
      refine ⟨_, a.size - 1, ?_, .inr ⟨rfl, rfl, rfl⟩⟩
      rw [perform, dispose, update_of_ok hf]
      rfl

/-- What `create` hands out: the next generation of the slot freed last, or a new slot. -/
theorem unusedHandle_eq_ok (hc : Consistent a) (hh : a.unusedHandle = .ok h) :
    (∃ old rest, a.free = h.index :: rest ∧ a.slots[h.index]? = some old ∧
      old.lifecycle = .disposed ∧ h.generation = old.generation + 1) ∨
    (a.free = [] ∧ a.slots.size < Handle.limit ∧ h = ⟨a.slots.size, 0⟩) := by
  rw [unusedHandle, reusable?] at hh
  cases hfree : a.free with
  | nil =>
      rw [hfree] at hh
      simp only at hh
      split at hh
      case isTrue hlt =>
          obtain rfl := Except.ok.inj hh
          exact .inr ⟨rfl, hlt, rfl⟩
      case isFalse => cases hh
  | cons i rest =>
      obtain ⟨old, hold, hdisposed⟩ := hc.free_disposed i (by rw [hfree]; exact List.mem_cons_self)
      rw [hfree] at hh
      simp only [hold, Option.map_some] at hh
      obtain rfl := Except.ok.inj hh
      exact .inl ⟨old, rest, rfl, hold, hdisposed, rfl⟩

/-- Only a full arena without a free slot has no handle left. -/
theorem unusedHandle_eq_error (hc : Consistent a) {e : MatchError}
    (hh : a.unusedHandle = .error e) :
    a.free = [] ∧ a.slots.size = Handle.limit ∧ e = { cause := .tooManyStates a.slots.size } := by
  rw [unusedHandle, reusable?] at hh
  cases hfree : a.free with
  | nil =>
      rw [hfree] at hh
      simp only at hh
      split at hh
      case isTrue => cases hh
      case isFalse hge =>
          have hsize := Nat.le_antisymm hc.size_le (Nat.le_of_not_lt hge)
          exact ⟨rfl, hsize, (Except.error.inj hh).symm⟩
  | cons i rest =>
      obtain ⟨old, hold, -⟩ := hc.free_disposed i (by rw [hfree]; exact List.mem_cons_self)
      rw [hfree] at hh
      simp only [hold, Option.map_some] at hh
      cases hh

/-- The state of a new handle. -/
def opened (config : Config) (h : Handle) (subject : Value) : EvaluationState α :=
  ((EvaluationState.new config h).setSubject subject).2

theorem handle_opened (config : Config) (h : Handle) (subject : Value) :
    (opened config h subject : EvaluationState α).handle = h := rfl

theorem lifecycle_opened (config : Config) (h : Handle) (subject : Value) :
    (opened config h subject : EvaluationState α).lifecycle = .active := rfl

/-- Without an unused handle nothing is created. -/
theorem create_of_error {e : MatchError} (hh : a.unusedHandle = .error e)
    (subject : Value) : a.create subject = (.error e, a) := by
  rw [create, hh]

/-- A new state takes the slot freed last, or a new slot if none is free. -/
theorem create_eq (hc : Consistent a) (hh : a.unusedHandle = .ok h) (subject : Value) :
    (∃ old rest, a.free = h.index :: rest ∧ a.slots[h.index]? = some old ∧
      old.lifecycle = .disposed ∧ h.generation = old.generation + 1 ∧
      a.create subject = (.ok h, { a with
        slots := a.slots.setIfInBounds h.index ⟨opened a.config h subject, h.generation⟩
        free := rest
        size := a.size + 1 })) ∨
    (a.free = [] ∧ a.slots.size < Handle.limit ∧ h = ⟨a.slots.size, 0⟩ ∧
      a.create subject = (.ok h, { a with
        slots := a.slots.push ⟨opened a.config h subject, h.generation⟩
        size := a.size + 1 })) := by
  rw [create, hh]
  rcases unusedHandle_eq_ok hc hh with ⟨old, rest, hfree, hold, hd, hg⟩ | ⟨hfree, hlt, rfl⟩
  · obtain ⟨hin, -⟩ := Array.getElem?_eq_some_iff.mp hold
    refine .inl ⟨old, rest, hfree, hold, hd, hg, ?_⟩
    simp only [if_pos hin, hfree]
    rfl
  · refine .inr ⟨hfree, hlt, rfl, ?_⟩
    simp only [Nat.lt_irrefl, if_false]
    rfl

/-- A new state takes the slot of its handle, and nobody else's. -/
theorem create_of_ok (hc : Consistent a) (hh : a.unusedHandle = .ok h) (subject : Value) :
    ∃ slots, a.create subject =
        (.ok h, { a with slots, free := a.free.tail, size := a.size + 1 }) ∧
      slots.size ≤ Handle.limit ∧
      ∀ i, slots[i]? =
        if i = h.index then some ⟨opened a.config h subject, h.generation⟩
        else a.slots[i]? := by
  rcases create_eq hc hh subject with
    ⟨old, rest, hfree, hold, -, -, hcreate⟩ | ⟨hfree, hlt, rfl, hcreate⟩
  · refine ⟨_, by rw [hcreate, hfree]; rfl, ?_, getElem?_setIfInBounds_of_some hold _⟩
    rw [Array.size_setIfInBounds]
    exact hc.size_le
  · refine ⟨_, by rw [hcreate, hfree]; rfl, ?_, fun i => Array.getElem?_push⟩
    rw [Array.size_push]
    exact hlt

/-- A creation that finds an unused handle answers with it. -/
theorem perform_create (hc : Consistent a) (hh : a.unusedHandle = .ok h) (subject : Value) :
    a.perform (.create subject) = (.issued (.ok h), (a.create subject).2) := by
  obtain ⟨slots, hcreate, -⟩ := create_of_ok hc hh subject
  rw [perform, hcreate]
  rfl

/-- The slot of a new handle is no longer free, and the others stay as they are. -/
theorem mem_tail_free_iff (hc : Consistent a) (hh : a.unusedHandle = .ok h) {i : Nat} :
    i ∈ a.free.tail ↔ i ∈ a.free ∧ i ≠ h.index := by
  rcases unusedHandle_eq_ok hc hh with ⟨old, rest, hfree, -⟩ | ⟨hfree, -⟩
  · have hnodup := hc.free_nodup
    rw [hfree, List.nodup_cons] at hnodup
    rw [hfree, List.tail_cons, List.mem_cons]
    constructor
    · intro hi
      exact ⟨.inr hi, ne_of_mem_of_not_mem hi hnodup.1⟩
    · rintro ⟨rfl | hi, hne⟩
      · exact absurd rfl hne
      · exact hi
  · simp [hfree]

/-- A new state stands in the slot of its handle, and the other slots stay as they are. -/
theorem getElem?_create (hc : Consistent a)
    (hh : a.unusedHandle = .ok h) (subject : Value) (i : Nat) :
    (a.create subject).2.slots[i]? =
      if i = h.index then some ⟨opened a.config h subject, h.generation⟩
      else a.slots[i]? := by
  obtain ⟨slots, hcreate, -, hslots⟩ := create_of_ok hc hh subject
  rw [hcreate]
  exact hslots i

/-- A call changes the slot that it is addressed to, and no other. -/
theorem getElem?_call (hc : Consistent a) (hop : op.call? = some (h, c))
    (hf : a.findLive h = .ok s) (i : Nat) :
    (a.perform op).2.slots[i]? =
      if i = h.index then some ⟨(s.call c).2, h.generation⟩ else a.slots[i]? := by
  obtain ⟨free, size, hp, -⟩ := perform_of_ok hc hop hf
  rw [hp]
  exact getElem?_setIfInBounds_of_some (findLive_eq_ok hf).1 _ i

/-- The handle that a creation answers with is the unused one. -/
theorem unusedHandle_of_create (hc : Consistent a) {subject : Value}
    (hh : (a.create subject).1 = .ok h) : a.unusedHandle = .ok h := by
  cases hu : a.unusedHandle with
  | error e =>
      rw [create_of_error hu] at hh
      cases hh
  | ok h' =>
      obtain ⟨slots, hcreate, -⟩ := create_of_ok hc hu subject
      rw [hcreate] at hh
      exact hh

/-- An operation issues a handle, calls a live state, or fails and changes nothing. -/
theorem perform_cases (hc : Consistent a) (op : Operation α) :
    (∃ subject h, op = .create subject ∧ a.unusedHandle = .ok h) ∨
    (∃ h c s, op.call? = some (h, c) ∧ a.findLive h = .ok s) ∨
    ∃ answer e, a.perform op = (answer, a) ∧ answer.error? = some e := by
  cases hop : op.call? with
  | none =>
      cases op with
      | create subject =>
          cases hu : a.unusedHandle with
          | error e =>
              refine .inr (.inr ⟨.issued (.error e), e, ?_, rfl⟩)
              rw [perform, create_of_error hu]
              rfl
          | ok h => exact .inl ⟨subject, h, rfl, rfl⟩
      | _ => cases hop
  | some call =>
      obtain ⟨h, c⟩ := call
      cases hf : a.findLive h with
      | error e =>
          obtain ⟨answer, hp, he⟩ := perform_of_error hc hop hf
          exact .inr (.inr ⟨answer, e, hp, he⟩)
      | ok s => exact .inr (.inl ⟨h, c, s, rfl, hf⟩)

/-- Options are never changed. -/
theorem config_perform (hc : Consistent a) (op : Operation α) :
    (a.perform op).2.config = a.config := by
  rcases perform_cases hc op with ⟨v, h, rfl, hu⟩ | ⟨h, c, s, hop, hf⟩ | ⟨answer, e, hp, -⟩
  · obtain ⟨slots, hcreate, -⟩ := create_of_ok hc hu v
    rw [perform, hcreate]
    rfl
  · obtain ⟨free, size, hp, -⟩ := perform_of_ok hc hop hf
    rw [hp]
  · rw [hp]

/-! ## the invariant is kept -/

/-- What holds of a new slot, and of the slots besides it, holds of every slot. -/
theorem forall_of_replaced {P : Nat → Slot α → Prop} {slots slots' : Array (Slot α)} {k : Nat}
    (hslots : ∀ i, slots'[i]? = if i = k then some slot else slots[i]?) (hnew : P k slot)
    (hold : ∀ i t, i ≠ k → slots[i]? = some t → P i t) (i : Nat) (t : Slot α)
    (ht : slots'[i]? = some t) : P i t := by
  rw [hslots] at ht
  by_cases hi : i = k
  · rw [if_pos hi, Option.some.injEq] at ht
    rw [← ht, hi]
    exact hnew
  · rw [if_neg hi] at ht
    exact hold i t hi ht

/-- A new state has the handle of its slot, which is no longer free. -/
theorem consistent_create (hc : Consistent a)
    (hh : a.unusedHandle = .ok h) (subject : Value) : Consistent (a.create subject).2 := by
  obtain ⟨slots, hcreate, hsize, hslots⟩ := create_of_ok hc hh subject
  rw [hcreate]
  refine ⟨forall_of_replaced hslots (handle_opened _ h _) fun i t _ => hc.handle_eq i t,
    fun i hi => ?_, hc.free_nodup.tail, hsize⟩
  obtain ⟨hmem, hne⟩ := (mem_tail_free_iff hc hh).mp hi
  simp only [hslots, if_neg hne]
  exact hc.free_disposed i hmem

/-- A call leaves the state its handle, and frees its slot only if the call disposes of it. -/
theorem consistent_call (hc : Consistent a) (hop : op.call? = some (h, c))
    (hf : a.findLive h = .ok s) : Consistent (a.perform op).2 := by
  obtain ⟨hslot, hl⟩ := findLive_eq_ok hf
  obtain ⟨free, size, hp, hkind⟩ := perform_of_ok hc hop hf
  -- a live state is not in a free slot
  have hlive : h.index ∉ a.free := by
    intro hmem
    obtain ⟨t, ht, hdisposed⟩ := hc.free_disposed _ hmem
    rw [hslot, Option.some.injEq] at ht
    rw [← ht] at hdisposed
    exact hl hdisposed
  have hfree : free.Nodup ∧ ∀ i ∈ free, i ∈ a.free ∨ (i = h.index ∧ c = .dispose) := by
    rcases hkind with ⟨-, rfl, -⟩ | ⟨hd, -, rfl⟩
    · exact ⟨hc.free_nodup, fun i hi => .inl hi⟩
    · split
      case isTrue =>
          refine ⟨List.nodup_cons.mpr ⟨hlive, hc.free_nodup⟩, fun i hi => ?_⟩
          rcases List.mem_cons.mp hi with rfl | hi
          · exact .inr ⟨rfl, hd⟩
          · exact .inl hi
      case isFalse => exact ⟨hc.free_nodup, fun i hi => .inl hi⟩
  have hhandle : (s.call c).2.handle = h := by
    rw [EvaluationState.handle_call, hc.handle_eq _ _ hslot]
  rw [hp]
  refine ⟨forall_of_replaced (getElem?_setIfInBounds_of_some hslot _) hhandle
    fun i t _ => hc.handle_eq i t, fun i hi => ?_, hfree.1, ?_⟩
  · simp only [getElem?_setIfInBounds_of_some hslot]
    rcases hfree.2 i hi with hmem | ⟨rfl, rfl⟩
    · rw [if_neg (ne_of_mem_of_not_mem hmem hlive)]
      exact hc.free_disposed i hmem
    · exact ⟨⟨s.dispose, h.generation⟩, if_pos rfl, rfl⟩
  · rw [Array.size_setIfInBounds]
    exact hc.size_le

theorem consistent_perform (hc : Consistent a) (op : Operation α) :
    Consistent (a.perform op).2 := by
  rcases perform_cases hc op with ⟨v, h, rfl, hu⟩ | ⟨h, c, s, hop, hf⟩ | ⟨answer, e, hp, -⟩
  · exact consistent_create hc hu v
  · exact consistent_call hc hop hf
  · rw [hp]
    exact hc

/-- The invariant holds after any operations, since each of them keeps it. -/
theorem consistent_run (hc : Consistent a) (ops : List (Operation α)) :
    Consistent (a.run ops) := by
  induction ops generalizing a with
  | nil => exact hc
  | cons op ops ih => exact ih (consistent_perform hc op)

/-! ## what changes behind a handle -/

/-- The handle that a new state gets is one that no state had. -/
theorem findLive_unusedHandle (hc : Consistent a)
    (hh : a.unusedHandle = .ok h) : a.findLive h = .error (unknownError h) := by
  rcases unusedHandle_eq_ok hc hh with ⟨old, rest, -, hold, -, hg⟩ | ⟨-, -, rfl⟩
  · exact findLive_of_gt hold (by omega)
  · exact findLive_of_none Array.getElem?_size

/-- A new state is found behind its handle. -/
theorem findLive_create (hc : Consistent a) (hh : a.unusedHandle = .ok h) (subject : Value) :
    (a.create subject).2.findLive h = .ok (opened a.config h subject) := by
  have hslot := getElem?_create hc hh subject h.index
  rw [if_pos rfl] at hslot
  rw [findLive_of_eq hslot rfl, lifecycle_opened, if_neg (by simp)]

/-- A new state hides nothing.  An older handle of its slot was disposed of before, and a newer
one is still to be issued. -/
theorem findLive_create_of_ne (hc : Consistent a) {h' : Handle}
    (hh : a.unusedHandle = .ok h) (subject : Value) (hne : h' ≠ h) :
    (a.create subject).2.findLive h' = a.findLive h' := by
  have hslot := getElem?_create hc hh subject h'.index
  by_cases hi : h'.index = h.index
  · rw [if_pos hi] at hslot
    have hg := generation_ne_of_ne hi hne
    rcases unusedHandle_eq_ok hc hh with ⟨old, rest, -, hold, hdisposed, hnext⟩ | ⟨-, -, rfl⟩
    · rw [← hi] at hold
      rcases Nat.lt_or_gt_of_ne hg with hlt | hgt
      · rw [findLive_of_lt hslot hlt]
        rcases Nat.lt_or_eq_of_le (Nat.le_of_lt_succ (hnext ▸ hlt)) with hlt' | heq
        · rw [findLive_of_lt hold hlt']
        · rw [findLive_of_eq hold heq, if_pos hdisposed]
      · rw [findLive_of_gt hslot hgt, findLive_of_gt hold (by omega)]
    · have hnone : a.slots[h'.index]? = none := by
        rw [hi]
        exact Array.getElem?_size
      rw [findLive_of_none hnone, findLive_of_gt hslot (Nat.pos_of_ne_zero hg)]
  · rw [if_neg hi] at hslot
    exact findLive_eq_of_getElem? hslot

/-- After a call the changed state is found behind the same handle, unless it is disposed of. -/
theorem findLive_call (hc : Consistent a) (hop : op.call? = some (h, c))
    (hf : a.findLive h = .ok s) :
    (a.perform op).2.findLive h =
      if (s.call c).2.lifecycle = .disposed then .error (disposedError h)
      else .ok (s.call c).2 := by
  have hslot := getElem?_call hc hop hf h.index
  rw [if_pos rfl] at hslot
  rw [findLive_of_eq hslot rfl]

/-- A call changes nothing behind any other handle, not even behind those of the same slot. -/
theorem findLive_call_of_ne (hc : Consistent a) {h' : Handle} (hop : op.call? = some (h, c))
    (hf : a.findLive h = .ok s) (hne : h' ≠ h) :
    (a.perform op).2.findLive h' = a.findLive h' := by
  have hslot := (findLive_eq_ok hf).1
  have hslot' := getElem?_call hc hop hf h'.index
  by_cases hi : h'.index = h.index
  · rw [if_pos hi] at hslot'
    rw [← hi] at hslot
    rcases Nat.lt_or_gt_of_ne (generation_ne_of_ne hi hne) with hlt | hgt
    · rw [findLive_of_lt hslot hlt, findLive_of_lt hslot' hlt]
    · rw [findLive_of_gt hslot hgt, findLive_of_gt hslot' hgt]
  · rw [if_neg hi] at hslot'
    exact findLive_eq_of_getElem? hslot'

end Arena

end Casebook
