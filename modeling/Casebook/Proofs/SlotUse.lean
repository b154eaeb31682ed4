import Casebook.Proofs.ArenaRun

/-!
# Casebook.Proofs.SlotUse

An arena has as many slots as it ever had live states at one time.

* `Arena.live`, `peak`, `creations` — how many slots hold a live state, the most that did on the
  way through some operations, and how many operations opened a state;
* `Balanced` — every disposed state's slot is free, live states are counted, and no slot is out
  of generations; `balanced_run` says that it holds until there are too many creations;
* `size_slots_run` — the slots grow with the peak, and for nothing else;
* `run_slot_use` — what this says of an arena after any operations.
-/

namespace Casebook

universe u

variable {α : Type u}

/-- The operation opened a state. -/
def Answer.isIssued : Answer α → Bool
  | issued (.ok _) => true
  | _ => false

/-- No call of a state opens another one. -/
theorem EvaluationState.isIssued_call (s : EvaluationState α) (c : Call α) :
    (s.call c).1.isIssued = false := by
  cases c <;> rfl

/-- An operation that fails opens no state. -/
theorem Answer.isIssued_of_error {answer : Answer α} {e : MatchError}
    (he : answer.error? = some e) : answer.isIssued = false := by
  match answer, he with
  | .issued (.error _), _ => rfl
  | .done _, _ => rfl
  | .registered _, _ => rfl
  | .evaluated _, _ => rfl

/-- The slot's state is not disposed of. -/
def Slot.isLive (slot : Slot α) : Bool := slot.lifecycle != .disposed

theorem Slot.isLive_of_ne {slot : Slot α} (hl : slot.lifecycle ≠ .disposed) :
    slot.isLive = true := by
  simp [isLive, hl]

theorem Slot.isLive_of_eq {slot : Slot α} (hl : slot.lifecycle = .disposed) :
    slot.isLive = false := by
  simp [isLive, hl]

namespace Arena

open EvaluationState (Call)

/-- How many slots hold a live state. -/
def live (a : Arena α) : Nat := a.slots.countP Slot.isLive

/-- How many of some operations opened a state. -/
def creations (log : List (Operation α × Answer α)) : Nat :=
  log.countP fun (_, answer) => answer.isIssued

/-- The most states that are live at one time, from here on through some operations. -/
def peak (a : Arena α) : List (Operation α) → Nat
  | [] => a.live
  | op :: ops => max a.live ((a.perform op).2.peak ops)

theorem creations_cons (op : Operation α) (answer : Answer α)
    (log : List (Operation α × Answer α)) :
    creations ((op, answer) :: log) = answer.isIssued.toNat + creations log := by
  rw [creations, List.countP_cons, Nat.add_comm, creations]
  cases hanswer : answer.isIssued <;> simp [hanswer]

variable {a : Arena α} {op : Operation α} {h : Handle} {c : Call α} {s : EvaluationState α}
  {n : Nat}

/-- There are no more live states than slots. -/
theorem live_le_size (a : Arena α) : a.live ≤ a.slots.size := Array.countP_le_size

/-- The peak counts the states that are live at the start. -/
theorem live_le_peak (a : Arena α) (ops : List (Operation α)) : a.live ≤ a.peak ops := by
  cases ops with
  | nil => exact Nat.le_refl _
  | cons op ops => exact Nat.le_max_left _ _

/-- If a slot is replaced, the number of live states changes by what the old and the new slot
count. -/
theorem countP_isLive_setIfInBounds {slots : Array (Slot α)} {i : Nat} {old : Slot α}
    (hi : slots[i]? = some old) (slot : Slot α) :
    (slots.setIfInBounds i slot).countP Slot.isLive + old.isLive.toNat =
      slots.countP Slot.isLive + slot.isLive.toNat := by
  obtain ⟨hlt, hold⟩ := Array.getElem?_eq_some_iff.mp hi
  have hle := Array.boole_getElem_le_countP (p := Slot.isLive) hlt
  rw [Array.setIfInBounds_def, dif_pos hlt, Array.countP_set]
  rw [hold] at hle ⊢
  cases hb : old.isLive with
  | false => cases slot.isLive <;> simp
  | true =>
      rw [hb, if_pos rfl] at hle
      cases slot.isLive <;> simp <;> omega

/-! ## bookkeeping -/

/-- Every disposed state's slot is free, and live states are counted.  Generations stay below the
number of states issued, so that no slot runs out of them. -/
structure Balanced (issued : Nat) (a : Arena α) : Prop extends Consistent a where
  mem_free : ∀ (i : Nat) (slot : Slot α), a.slots[i]? = some slot → slot.lifecycle = .disposed →
    i ∈ a.free
  size_eq : a.size = a.live
  generation_lt : ∀ (i : Nat) (slot : Slot α), a.slots[i]? = some slot → slot.generation < issued

/-- A new arena has no state, no slot and nothing to free. -/
theorem balanced_new (config : Config) : Balanced 0 (new config : Arena α) where
  toConsistent := consistent_new config
  mem_free i slot hs := by simp [new] at hs
  size_eq := by simp [new, live]
  generation_lt i slot hs := by simp [new] at hs

/-- The free slots are exactly those of disposed states. -/
theorem mem_free_iff (hb : Balanced n a) (i : Nat) :
    i ∈ a.free ↔ ∃ slot : Slot α, a.slots[i]? = some slot ∧ slot.lifecycle = .disposed :=
  ⟨hb.free_disposed i, fun ⟨slot, hs, hl⟩ => hb.mem_free i slot hs hl⟩

/-- Behind a live handle there is a live state to count. -/
theorem live_pos (hf : a.findLive h = .ok s) : 0 < a.live := by
  obtain ⟨hslot, hl⟩ := findLive_eq_ok hf
  refine Array.countP_pos_iff.mpr ⟨⟨s, h.generation⟩, ?_, Slot.isLive_of_ne hl⟩
  exact Array.mem_of_getElem? hslot

/-- Nothing is free only if every slot is taken by a live state. -/
theorem live_eq_size (hb : Balanced n a) (hfree : a.free = []) : a.live = a.slots.size := by
  refine Array.countP_eq_size.mpr fun slot hmem => ?_
  obtain ⟨i, hs⟩ := Array.mem_iff_getElem?.mp hmem
  refine Slot.isLive_of_ne fun hl => ?_
  have hi := hb.mem_free i slot hs hl
  rw [hfree] at hi
  cases hi

/-- To create a state adds one live state, be its slot a new one or not. -/
theorem live_create (hc : Consistent a) (hh : a.unusedHandle = .ok h) (subject : Value) :
    (a.create subject).2.live = a.live + 1 := by
  have hnew : Slot.isLive (α := α) ⟨opened a.config h subject, h.generation⟩ = true :=
    Slot.isLive_of_ne (by simp [lifecycle_opened])
  rcases create_eq hc hh subject with
    ⟨old, rest, -, hold, hdisposed, -, hcreate⟩ | ⟨-, -, -, hcreate⟩
  · have hcount := countP_isLive_setIfInBounds hold
      ⟨opened a.config h subject, h.generation⟩
    rw [Slot.isLive_of_eq hdisposed, hnew] at hcount
    rw [hcreate]
    exact hcount
  · rw [hcreate, live, Array.countP_push, hnew]
    rfl

/-- A call of a live state leaves as many live states as before, or one less if it disposes of the
state. -/
theorem live_call (hc : Consistent a) (hop : op.call? = some (h, c))
    (hf : a.findLive h = .ok s) :
    (a.perform op).2.live + 1 =
      a.live + (Slot.mk (s.call c).2 h.generation).isLive.toNat := by
  obtain ⟨hslot, hl⟩ := findLive_eq_ok hf
  obtain ⟨free, size, hp, -⟩ := perform_of_ok hc hop hf
  have hcount := countP_isLive_setIfInBounds hslot ⟨(s.call c).2, h.generation⟩
  rw [Slot.isLive_of_ne hl] at hcount
  rw [hp]
  exact hcount

/-- Creation keeps the books, with one state more. -/
theorem balanced_create (hb : Balanced n a) (hh : a.unusedHandle = .ok h) (subject : Value) :
    Balanced (n + 1) (a.create subject).2 := by
  have hc := hb.toConsistent
  have hslots := getElem?_create hc hh subject
  have hgeneration : h.generation < n + 1 := by
    rcases unusedHandle_eq_ok hc hh with ⟨old, rest, -, hold, -, hnext⟩ | ⟨-, -, rfl⟩
    · have hlt := hb.generation_lt _ old hold
      omega
    · exact Nat.succ_pos n
  obtain ⟨slots, hcreate, -, -⟩ := create_of_ok hc hh subject
  refine ⟨consistent_create hc hh subject, forall_of_replaced hslots ?_ fun i t hi ht hd => ?_,
    ?_, forall_of_replaced hslots hgeneration fun i t _ ht => ?_⟩
  · simp [lifecycle_opened]
  · rw [hcreate]
    exact (mem_tail_free_iff hc hh).mpr ⟨hb.mem_free i t ht hd, hi⟩
  · rw [live_create hc hh, ← hb.size_eq, hcreate]
  · exact Nat.lt_succ_of_lt (hb.generation_lt i t ht)

/-- So long as generations last, a call of a live state keeps the books: the slot of a state that is
disposed of becomes free. -/
theorem balanced_call (hb : Balanced n a) (hn : n ≤ Handle.limit)
    (hop : op.call? = some (h, c)) (hf : a.findLive h = .ok s) :
    Balanced n (a.perform op).2 := by
  have hc := hb.toConsistent
  have hslots := getElem?_call hc hop hf
  have hcount := live_call hc hop hf
  have hsize := hb.size_eq
  have hgeneration : h.generation < n := hb.generation_lt _ _ (findLive_eq_ok hf).1
  obtain ⟨free, size, hp, hkind⟩ := perform_of_ok hc hop hf
  -- a slot that is not out of generations is free once its state is disposed of
  have hfree : ((s.call c).2.lifecycle = .disposed → h.index ∈ free) ∧ ∀ i ∈ a.free, i ∈ free := by
    rcases hkind with ⟨hne, rfl, -⟩ | ⟨-, -, rfl⟩
    · have hl := EvaluationState.lifecycle_call_ne_disposed (findLive_eq_ok hf).2 hne
      exact ⟨fun hd => absurd hd hl, fun i hi => hi⟩
    · rw [if_pos (Nat.lt_of_lt_of_le hgeneration hn)]
      exact ⟨fun _ => List.mem_cons_self, fun i hi => List.mem_cons_of_mem _ hi⟩
  refine ⟨consistent_call hc hop hf, forall_of_replaced hslots ?_ fun i t _ ht hd => ?_, ?_,
    forall_of_replaced hslots hgeneration fun i t _ ht => hb.generation_lt i t ht⟩
  · rw [hp]
    exact hfree.1
  · rw [hp]
    exact hfree.2 i (hb.mem_free i t ht hd)
  · have hafter : (a.perform op).2.size = size := by rw [hp]
    rw [hafter]
    rcases hkind with ⟨hne, -, rfl⟩ | ⟨rfl, rfl, -⟩
    · have hl := EvaluationState.lifecycle_call_ne_disposed (findLive_eq_ok hf).2 hne
      rw [Slot.isLive_of_ne hl, Bool.toNat_true] at hcount
      omega
    · rw [Slot.isLive_of_eq rfl, Bool.toNat_false] at hcount
      omega

/-- Every operation keeps the books, with one state more if it opened one. -/
theorem balanced_perform (hb : Balanced n a) (hn : n ≤ Handle.limit) (op : Operation α) :
    Balanced (n + (a.perform op).1.isIssued.toNat) (a.perform op).2 := by
  have hc := hb.toConsistent
  rcases perform_cases hc op with ⟨v, h, rfl, hh⟩ | ⟨h, c, s, hop, hf⟩ | ⟨answer, e, hp, he⟩
  · rw [perform_create hc hh]
    exact balanced_create hb hh v
  · obtain ⟨free, size, hp, -⟩ := perform_of_ok hc hop hf
    have hanswer : (a.perform op).1.isIssued = false := by
      rw [hp]
      exact s.isIssued_call c
    rw [hanswer]
    exact balanced_call hb hn hop hf
  · rw [hp, Answer.isIssued_of_error he]
    exact hb

/-- Any operations keep the books, as long as they open no more states than there are
generations. -/
theorem balanced_run (hb : Balanced n a) (ops : List (Operation α))
    (hn : n + creations (a.log ops) ≤ Handle.limit) :
    Balanced (n + creations (a.log ops)) (a.run ops) := by
  induction ops generalizing n a with
  | nil => exact hb
  | cons op ops ih =>
      rw [log, creations_cons, ← Nat.add_assoc] at hn ⊢
      have hstep := balanced_perform hb (by omega) op
      exact ih hstep hn

/-! ## how many slots there are -/

/-- A new state takes the slot freed last, and a new slot only if none is free.  Without a slot
for it, everything stays. -/
theorem create_cases (hc : Consistent a) (subject : Value) :
    (∃ h rest, a.free = h.index :: rest ∧ a.create subject = (.ok h, { a with
      slots := a.slots.setIfInBounds h.index ⟨opened a.config h subject, h.generation⟩
      free := rest
      size := a.size + 1 })) ∨
    (∃ h, a.free = [] ∧ h.index = a.slots.size ∧ a.create subject = (.ok h, { a with
      slots := a.slots.push ⟨opened a.config h subject, h.generation⟩
      size := a.size + 1 })) ∨
    (a.free = [] ∧ a.slots.size = Handle.limit ∧
      a.create subject = (.error { cause := .tooManyStates a.slots.size }, a)) := by
  cases hu : a.unusedHandle with
  | ok h =>
      rcases create_eq hc hu subject with
        ⟨old, rest, hfree, -, -, -, hcreate⟩ | ⟨hfree, -, rfl, hcreate⟩
      · exact .inl ⟨h, rest, hfree, hcreate⟩
      · exact .inr (.inl ⟨⟨a.slots.size, 0⟩, hfree, rfl, hcreate⟩)
  | error e =>
      obtain ⟨hfree, hsize, rfl⟩ := unusedHandle_eq_error hc hu
      exact .inr (.inr ⟨hfree, hsize, create_of_error hu subject⟩)

/-- A slot is added only when live states take up all the others and the new one. -/
theorem size_slots_perform (hb : Balanced n a) (op : Operation α) :
    (a.perform op).2.slots.size = a.slots.size ∨
    ((a.perform op).2.slots.size = a.slots.size + 1 ∧
      (a.perform op).2.live = a.slots.size + 1) := by
  have hc := hb.toConsistent
  rcases perform_cases hc op with ⟨v, h, rfl, hh⟩ | ⟨h, c, s, hop, hf⟩ | ⟨answer, e, hp, -⟩
  · rw [perform_create hc hh]
    rcases create_eq hc hh v with ⟨old, rest, -, -, -, -, hcreate⟩ | ⟨hfree, -, -, hcreate⟩
    · left
      rw [hcreate, Array.size_setIfInBounds]
    · right
      rw [live_create hc hh, live_eq_size hb hfree, hcreate, Array.size_push]
      exact ⟨rfl, rfl⟩
  · obtain ⟨free, size, hp, -⟩ := perform_of_ok hc hop hf
    left
    rw [hp, Array.size_setIfInBounds]
  · left
    rw [hp]

/-- There are as many slots as states were ever live at one time, or as many as at the start. -/
theorem size_slots_run (hb : Balanced n a) (ops : List (Operation α))
    (hn : n + creations (a.log ops) ≤ Handle.limit) :
    (a.run ops).slots.size = max a.slots.size (a.peak ops) := by
  induction ops generalizing n a with
  | nil => exact (Nat.max_eq_left a.live_le_size).symm
  | cons op ops ih =>
      -- a new slot makes the peak, and otherwise the slots stay as many as they were
      rw [log, creations_cons, ← Nat.add_assoc] at hn
      have hstep := balanced_perform hb (by omega) op
      have hpeak := live_le_peak (a.perform op).2 ops
      have hle := a.live_le_size
      rw [run_cons, ih hstep hn, peak]
      rcases size_slots_perform hb op with hsize | ⟨hsize, hlive⟩ <;> omega

/-- Only a counted state can be disposed of. -/
theorem size_dispose (hb : Balanced n a) (hd : (a.dispose h).1 = .ok ()) :
    (a.dispose h).2.size + 1 = a.size := by
  cases hf : a.findLive h with
  | error e =>
      rw [dispose, update_of_error hf] at hd
      cases hd
  | ok s =>
      have hlive : 0 < a.live := live_pos hf
      rw [← hb.size_eq] at hlive
      rw [dispose, update_of_ok hf]
      exact Nat.succ_pred_eq_of_pos hlive

/-- **An arena has as many slots as it ever had live states at one time.**  This and its other
bookkeeping hold after any operations, of which fewer than 2 ^ 32 open a state.  What is free is
what is disposed of, once each.  What is counted is what is live, so that disposal always has
something to count down.  States know their slots, and new states go where states were disposed of,
if anywhere. -/
theorem run_slot_use (config : Config) (ops : List (Operation α))
    (hn : creations ((new config : Arena α).log ops) ≤ Handle.limit) :
    let a := (new config : Arena α).run ops
    a.free.Nodup ∧
    (∀ i, i ∈ a.free ↔ ∃ slot : Slot α, a.slots[i]? = some slot ∧ slot.lifecycle = .disposed) ∧
    a.size = a.live ∧
    (∀ h, (a.dispose h).1 = .ok () → (a.dispose h).2.size + 1 = a.size) ∧
    (∀ i (slot : Slot α), a.slots[i]? = some slot → slot.handle = ⟨i, slot.generation⟩) ∧
    (∀ subject,
      (∃ h rest, a.free = h.index :: rest ∧ a.create subject = (.ok h, { a with
        slots := a.slots.setIfInBounds h.index ⟨opened a.config h subject, h.generation⟩
        free := rest
        size := a.size + 1 })) ∨
      (∃ h, a.free = [] ∧ h.index = a.slots.size ∧ a.create subject = (.ok h, { a with
        slots := a.slots.push ⟨opened a.config h subject, h.generation⟩
        size := a.size + 1 })) ∨
      (a.free = [] ∧ a.slots.size = Handle.limit ∧
        a.create subject = (.error { cause := .tooManyStates a.slots.size }, a))) ∧
    a.slots.size = (new config : Arena α).peak ops := by
  rw [← Nat.zero_add (creations _)] at hn
  have hb := balanced_run (balanced_new config) ops hn
  have hsize := size_slots_run (balanced_new config) ops hn
  refine ⟨hb.free_nodup, mem_free_iff hb, hb.size_eq, fun h => size_dispose hb, hb.handle_eq,
    create_cases hb.toConsistent, ?_⟩
  rw [hsize]
  exact Nat.max_eq_right (Nat.zero_le _)

/-- Three states are opened, but never more than two are live: the third one reuses a slot. -/
theorem run_slot_use_twoAtOnce :
    ∃ ops : List (Operation Nat),
      ops = [.create .null, .create .null, .dispose ⟨0, 0⟩, .create (.bool true),
        .dispose ⟨1, 0⟩] ∧
      creations ((new {}).log ops) ≤ Handle.limit ∧
      creations ((new {}).log ops) = 3 ∧
      ((new {}).run ops).free.Nodup ∧
      (1 ∈ ((new {}).run ops).free ↔ ∃ slot : Slot Nat,
        ((new {}).run ops).slots[1]? = some slot ∧ slot.lifecycle = .disposed) ∧
      ((new {}).run ops).free = [1] ∧
      ((new {}).run ops).size = ((new {}).run ops).live ∧
      ((new {}).run ops).size = 1 ∧
      ((new {}).run ops).slots.size = (new {}).peak ops ∧
      ((new {}).run ops).slots.size = 2 := by
  obtain ⟨hnodup, hfree, hlen, -, -, -, hpeak⟩ := run_slot_use (α := Nat) {}
    [.create .null, .create .null, .dispose ⟨0, 0⟩, .create (.bool true), .dispose ⟨1, 0⟩]
    (by decide)
  exact ⟨_, rfl, by decide, rfl, hnodup, hfree 1, rfl, hlen, rfl, hpeak, rfl⟩

end Arena

end Casebook
