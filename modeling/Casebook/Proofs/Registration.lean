import Casebook.CaseList
import Mathlib.Data.List.Induction

/-!
# Casebook.Proofs.Registration

Which registrations a list of cases accepts, read off the cases that it holds, and which cases
it holds in the end.

* `CaseList.admits` — the rules: a new identity, nothing after a fallback, and no name captured
  twice where that is forbidden;
* `CaseList.accepted` — of some cases registered one after the other, those that are kept;
* `register_of_admits`, `register_of_not_admits` — registration keeps a case iff it is admitted;
  `register_eq_added_iff` and `list_register` say so of the answer and of the list;
* `isConfiguration_of_register` — it only fails over a declaration;
* `FallbackLast` — only the last case is a fallback, since nothing is admitted behind one.
-/

namespace Casebook

universe u

namespace CaseList

variable {α : Type u}

/-- Whether a case may follow the cases that are kept already. -/
def admits (config : Config) (kept : List (Case α)) (c : Case α) : Bool :=
  kept.all (fun d => d.id != c.id) && !kept.getLast?.any Case.isFallback &&
    !(config.strictSelections && !c.duplicates.isEmpty)

/-- The cases that are kept of some registered one after the other. -/
def accepted (config : Config) (cases : List (Case α)) : List (Case α) :=
  cases.foldl (fun kept c => if admits config kept c then kept ++ [c] else kept) []

/-- One more case is accepted if those accepted before admit it. -/
theorem accepted_concat (config : Config) (cases : List (Case α)) (c : Case α) :
    accepted config (cases ++ [c]) =
      if admits config (accepted config cases) c then accepted config cases ++ [c]
      else accepted config cases := by
  rw [accepted, List.foldl_append]
  rfl

/-- Registration never reorders: what is kept stands in the order in which it came. -/
theorem accepted_sublist (config : Config) (cases : List (Case α)) :
    (accepted config cases).Sublist cases := by
  induction cases using List.reverseRecOn with
  | nil => exact List.Sublist.refl []
  | append_singleton cases c ih =>
      rw [accepted_concat]
      split
      case isTrue => exact ih.append_right [c]
      case isFalse => exact List.sublist_append_of_sublist_left ih

/-- A case is admitted if it is new and the list has nothing against it. -/
theorem admits_eq (l : CaseList α) (c : Case α) :
    admits l.config l.cases c = (!l.contains c.id && (l.rejection? c).isNone) := by
  have hid : l.cases.all (fun d => d.id != c.id) = !l.contains c.id := by
    rw [contains, List.not_any_eq_all_not]
    rfl
  rw [admits, hid, Bool.and_assoc]
  congr 1
  unfold rejection? fallback?
  cases hlast : l.cases.getLast? with
  | none => cases hd : c.duplicates <;> cases hs : l.config.strictSelections <;> simp
  | some last =>
      cases hf : last.isFallback
      · cases hd : c.duplicates <;> cases hs : l.config.strictSelections <;> simp [hf]
      · simp [hf]

/-- A case that is admitted is put at the end of the list. -/
theorem register_of_admits {l : CaseList α} {c : Case α}
    (h : admits l.config l.cases c = true) :
    l.register c = (.ok .added, { l with cases := l.cases ++ [c] }) := by
  rw [admits_eq, Bool.and_eq_true, Bool.not_eq_true', Option.isNone_iff_eq_none] at h
  rw [register, h.1, h.2]
  rfl

/-- A case that is not admitted leaves the list as it is, and the answer says so. -/
theorem register_of_not_admits {l : CaseList α} {c : Case α}
    (h : admits l.config l.cases c = false) :
    ∃ answer, l.register c = (answer, l) ∧ answer ≠ .ok .added := by
  rw [admits_eq] at h
  unfold register
  split
  case isTrue => exact ⟨_, rfl, by simp⟩
  case isFalse hc =>
      cases hr : l.rejection? c with
      | some e => exact ⟨_, rfl, by simp⟩
      | none => simp [hc, hr] at h

/-- Exactly the cases that are admitted are answered `added`. -/
theorem register_eq_added_iff {l : CaseList α} {c : Case α} :
    (l.register c).1 = .ok .added ↔ admits l.config l.cases c = true := by
  cases ha : admits l.config l.cases c with
  | true => simp [register_of_admits ha]
  | false =>
      obtain ⟨answer, hregister, hanswer⟩ := register_of_not_admits ha
      simp [hregister, hanswer]

/-- The list after a registration, whatever was answered. -/
theorem list_register (l : CaseList α) (c : Case α) :
    (l.register c).2 =
      if admits l.config l.cases c then { l with cases := l.cases ++ [c] } else l := by
  cases ha : admits l.config l.cases c with
  | true => rw [register_of_admits ha, if_pos rfl]
  | false =>
      obtain ⟨answer, hregister, -⟩ := register_of_not_admits ha
      rw [hregister, if_neg Bool.false_ne_true]

/-- What rejects a case is a mistake in its declaration. -/
theorem isConfiguration_of_rejection? {l : CaseList α} {c : Case α} {e : MatchError}
    (h : l.rejection? c = some e) : e.cause.isConfiguration = true := by
  unfold rejection? at h
  split at h
  case h_1 =>
      obtain rfl := Option.some.inj h
      rfl
  case h_2 =>
      split at h
      case h_1 =>
          split at h
          case isTrue =>
              obtain rfl := Option.some.inj h
              rfl
          case isFalse => cases h
      case h_2 => cases h

/-- An error of a registration always blames the configuration. -/
theorem isConfiguration_of_register {l : CaseList α} {c : Case α} {e : MatchError}
    (h : (l.register c).1 = .error e) : e.cause.isConfiguration = true := by
  unfold register at h
  split at h
  case isTrue => cases h
  case isFalse =>
      split at h
      case h_1 e' hr =>
          obtain rfl := Except.error.inj h
          exact isConfiguration_of_rejection? hr
      case h_2 => cases h

/-! ## lists with a fallback -/

variable {cases : List (Case α)} {f : Case α}

/-- No case but the last is a fallback. -/
def FallbackLast (cases : List (Case α)) : Prop := ∀ c ∈ cases.dropLast, c.isFallback = false

theorem fallbackLast_nil : FallbackLast ([] : List (Case α)) := by
  intro c hc
  cases hc

/-- Where a fallback may only stand last, one that is there is the last case. -/
theorem getLast?_of_fallbackLast (h : FallbackLast cases) (hf : f ∈ cases)
    (hfallback : f.isFallback = true) : cases.getLast? = some f := by
  have hne : cases ≠ [] := List.ne_nil_of_mem hf
  rw [← List.dropLast_concat_getLast hne, List.mem_append, List.mem_singleton] at hf
  rcases hf with hf | hf
  · rw [h f hf] at hfallback
    cases hfallback
  · rw [List.getLast?_eq_some_getLast hne, hf]

/-- Where a fallback may only stand last, nothing stands behind it and no other fallback before
it. -/
theorem nothing_behind_fallback {before after : List (Case α)}
    (h : FallbackLast (before ++ f :: after)) (hfallback : f.isFallback = true) :
    after = [] ∧ ∀ d ∈ before, d.isFallback = false := by
  cases after with
  | nil =>
      rw [FallbackLast, List.dropLast_concat] at h
      exact ⟨rfl, h⟩
  | cons c after =>
      have hmem : f ∈ (before ++ f :: c :: after).dropLast := by
        rw [List.dropLast_append_of_ne_nil (by simp), List.dropLast_cons_of_ne_nil (by simp)]
        exact List.mem_append_right before List.mem_cons_self
      rw [h f hmem] at hfallback
      cases hfallback

/-- Nothing is admitted behind a fallback. -/
theorem admits_of_fallback (h : FallbackLast cases) (hf : f ∈ cases)
    (hfallback : f.isFallback = true) (config : Config) (c : Case α) :
    admits config cases c = false := by
  rw [admits, getLast?_of_fallbackLast h hf hfallback, Option.any_some, hfallback, Bool.not_true,
    Bool.and_false, Bool.false_and]

/-- A case that is admitted keeps the fallback last. -/
theorem fallbackLast_concat (h : FallbackLast cases) {config : Config} {c : Case α}
    (ha : admits config cases c = true) : FallbackLast (cases ++ [c]) := by
  intro d hd
  rw [List.dropLast_concat] at hd
  cases hfallback : d.isFallback with
  | false => rfl
  | true =>
      rw [admits_of_fallback h hd hfallback] at ha
      cases ha

/-- However cases are registered, a fallback is the last one accepted. -/
theorem fallbackLast_accepted (config : Config) (cases : List (Case α)) :
    FallbackLast (accepted config cases) := by
  induction cases using List.reverseRecOn with
  | nil => exact fallbackLast_nil
  | append_singleton cases c ih =>
      rw [accepted_concat]
      split
      case isTrue ha => exact fallbackLast_concat ih ha
      case isFalse => exact ih

/-- Behind a fallback every case is refused: as a duplicate, or because the fallback has to stay
last. -/
theorem register_of_fallback {l : CaseList α} (h : FallbackLast l.cases) (hf : f ∈ l.cases)
    (hfallback : f.isFallback = true) (c : Case α) :
    l.register c =
      (if l.contains c.id then .ok .duplicate
        else .error ⟨.fallbackNotLast f.id.label c.id.label, some c.id.label⟩, l) := by
  have hlast : l.fallback? = some f.id := by
    rw [fallback?, getLast?_of_fallbackLast h hf hfallback]
    exact if_pos hfallback
  rw [register, rejection?, hlast]
  split <;> rfl

end CaseList

end Casebook
