import Casebook.Pattern.Census
import Casebook.Pattern.Keys

/-!
# Casebook.Proofs.SelectionRules

What the rules of selection say about the keys of a pattern.  The census counts captures and the
walk of `Pattern.Keys` lists keys, each in its own way: of alternatives the census takes the
maximum, of parts that match together the sum.  About which keys there are, they agree.

* `Census.Holds` — the keys that a count knows of, with an equation for each operation;
* `Pattern.holds_census` — these are the keys of the pattern;
* `Pattern.validate_eq_ok_iff` — a pattern passes the check if it breaks no rule;
* `Pattern.keys_of_fault?_eq_none` — a pattern that keeps the rules has the anonymous key by itself
  or not at all.
-/

namespace Casebook

/-! ## what a census holds -/

namespace Census

/-- Whether captures under a key were counted. -/
def Holds (c : Census) : SelectionKey → Prop
  | .anonymous => 0 < c.anonymous
  | .named name => name ∈ c.named

/-- Before anything is counted, no key is held. -/
theorem not_holds_empty (k : SelectionKey) : ¬ ({} : Census).Holds k := by
  cases k <;> simp [Holds]

/-- To report a name does not count it. -/
theorem holds_addDuplicate (c : Census) (name : String) (k : SelectionKey) :
    (c.addDuplicate name).Holds k ↔ c.Holds k := by
  unfold addDuplicate
  split
  case isTrue => exact Iff.rfl
  case isFalse => cases k <;> exact Iff.rfl

/-- A name that is added is held afterwards, be it new or not. -/
theorem holds_addNamed (c : Census) (name : String) (k : SelectionKey) :
    (c.addNamed name).Holds k ↔ c.Holds k ∨ k = .named name := by
  unfold addNamed
  split
  case isTrue h =>
      rw [holds_addDuplicate]
      exact ⟨.inl, fun hk => hk.elim id fun he => he ▸ h⟩
  case isFalse => cases k <;> simp [Holds]

/-- A name of an alternative is held afterwards, be it new or not. -/
theorem holds_addAlternative (c : Census) (name : String) (k : SelectionKey) :
    (c.addAlternative name).Holds k ↔ c.Holds k ∨ k = .named name := by
  unfold addAlternative
  split
  case isTrue h => exact ⟨.inl, fun hk => hk.elim id fun he => he ▸ h⟩
  case isFalse => cases k <;> simp [Holds]

/-- A selection adds its own key, with a name or without. -/
theorem holds_record (c : Census) (key k : SelectionKey) :
    (c.record key).Holds k ↔ c.Holds k ∨ k = key := by
  cases key with
  | anonymous => cases k <;> simp [record, Holds]
  | named name => exact holds_addNamed c name k

theorem holds_foldl_addDuplicate (names : List String) (c : Census) (k : SelectionKey) :
    (names.foldl addDuplicate c).Holds k ↔ c.Holds k := by
  induction names generalizing c with
  | nil => exact Iff.rfl
  | cons name names ih => rw [List.foldl_cons, ih, holds_addDuplicate]

/-- Names added one after the other, in whichever of the two ways. -/
theorem holds_foldl {add : Census → String → Census}
    (h : ∀ c name k, (add c name).Holds k ↔ c.Holds k ∨ k = .named name)
    (names : List String) (c : Census) (k : SelectionKey) :
    (names.foldl add c).Holds k ↔ c.Holds k ∨ k ∈ names.map .named := by
  induction names generalizing c with
  | nil => simp
  | cons name names ih =>
      rw [List.foldl_cons, ih, h, List.map_cons, List.mem_cons, or_assoc]

/-- Parts that capture together hold what one of them holds. -/
theorem holds_together (c part : Census) (k : SelectionKey) :
    (c.together part).Holds k ↔ c.Holds k ∨ part.Holds k := by
  rw [together, holds_foldl_addDuplicate, holds_foldl holds_addNamed]
  cases k with
  | anonymous =>
      rw [or_iff_left (by simp)]
      show 0 < c.anonymous + part.anonymous ↔ 0 < c.anonymous ∨ 0 < part.anonymous
      omega
  | named name => simp [Holds]

/-- Alternatives hold what one of them holds. -/
theorem holds_either (c part : Census) (k : SelectionKey) :
    (c.either part).Holds k ↔ c.Holds k ∨ part.Holds k := by
  rw [either, holds_foldl_addDuplicate, holds_foldl holds_addAlternative]
  cases k with
  | anonymous =>
      rw [or_iff_left (by simp)]
      show 0 < max c.anonymous part.anonymous ↔ 0 < c.anonymous ∨ 0 < part.anonymous
      omega
  | named name => simp [Holds]

end Census

namespace Pattern

/-! ## the census of a pattern -/

mutual

/-- The census of a pattern holds exactly the keys that the pattern records. -/
theorem holds_census (p : Pattern) (k : SelectionKey) : p.census.Holds k ↔ k ∈ p.keys := by
  cases p with
  | select key inner =>
      cases inner with
      | none =>
          rw [census, Census.holds_record]
          simp [Census.not_holds_empty, keys, collect, addKey]
      | some p =>
          rw [census, Census.holds_record, holds_census p, mem_keys_select, or_comm]
  | object fields =>
      rw [census, holds_censusFields fields]
      simp [Census.not_holds_empty, keys, collect]
  | tuple ps | all ps =>
      rw [census, holds_censusTogether ps]
      simp [Census.not_holds_empty, keys, collect]
  | any ps =>
      rw [census, holds_censusEither ps]
      simp [Census.not_holds_empty, keys, collect]
  | each p | optional p => exact holds_census p k
  | literal _ | wildcard | not _ | kind _ | when _ =>
      simp [census, Census.not_holds_empty, keys, collect]

theorem holds_censusFields (fields : List (String × Pattern)) (total : Census)
    (k : SelectionKey) :
    (censusFields total fields).Holds k ↔ total.Holds k ∨ k ∈ collectFields [] fields := by
  cases fields with
  | nil => simp [censusFields, collectFields]
  | cons f fields =>
      obtain ⟨name, p⟩ := f
      rw [censusFields, holds_censusFields fields, Census.holds_together, holds_census p,
        mem_collectFields_cons, or_assoc]

theorem holds_censusTogether (ps : List Pattern) (total : Census) (k : SelectionKey) :
    (censusTogether total ps).Holds k ↔ total.Holds k ∨ k ∈ collectParts [] ps := by
  cases ps with
  | nil => simp [censusTogether, collectParts]
  | cons p ps =>
      rw [censusTogether, holds_censusTogether ps, Census.holds_together, holds_census p,
        mem_collectParts_cons, or_assoc]

theorem holds_censusEither (ps : List Pattern) (total : Census) (k : SelectionKey) :
    (censusEither total ps).Holds k ↔ total.Holds k ∨ k ∈ collectParts [] ps := by
  cases ps with
  | nil => simp [censusEither, collectParts]
  | cons p ps =>
      rw [censusEither, holds_censusEither ps, Census.holds_either, holds_census p,
        mem_collectParts_cons, or_assoc]

end

/-! ## the keys of a pattern that keeps the rules -/

/-- The check succeeds if no rule is broken, and reports the duplicates of the census. -/
theorem validate_eq_ok_iff {p : Pattern} {names : List String} :
    p.validate = .ok names ↔ p.fault? = none ∧ p.duplicates = names := by
  rw [validate]
  cases p.fault? with
  | none => simp
  | some cause => simp

/-- Beside the anonymous key there is no named one. -/
theorem named_not_mem_keys {p : Pattern} (h : p.fault? = none) (ha : .anonymous ∈ p.keys)
    (name : String) : .named name ∉ p.keys := by
  have hanonymous : 0 < p.census.anonymous := (holds_census p .anonymous).mpr ha
  have hnamed : p.census.named = [] := by
    apply Classical.byContradiction
    intro hne
    rw [fault?] at h
    split at h
    case isTrue => cases h
    case isFalse =>
        rw [if_pos ⟨hanonymous, hne⟩] at h
        cases h
  intro hname
  have hmem : name ∈ p.census.named := (holds_census p (.named name)).mpr hname
  rw [hnamed] at hmem
  cases hmem

/-- A pattern that keeps the rules has a single anonymous key, or names only. -/
theorem keys_of_fault?_eq_none {p : Pattern} (h : p.fault? = none) :
    p.keys = [.anonymous] ∨ .anonymous ∉ p.keys := by
  by_cases ha : .anonymous ∈ p.keys
  · left
    have hall : ∀ k ∈ p.keys, k = .anonymous := by
      intro k hk
      cases k with
      | anonymous => rfl
      | named name => exact absurd hk (named_not_mem_keys h ha name)
    -- a key is listed once, and there is only one
    have hnodup := nodup_keys p
    cases hkeys : p.keys with
    | nil =>
        rw [hkeys] at ha
        cases ha
    | cons k ks =>
        rw [hkeys] at hall hnodup
        have hk : k = .anonymous := hall k List.mem_cons_self
        have hks : ks = [] := by
          rw [List.eq_nil_iff_forall_not_mem]
          intro k' hk'
          have hk'' : k' = k := (hall k' (List.mem_cons_of_mem k hk')).trans hk.symm
          exact (List.nodup_cons.mp hnodup).1 (hk'' ▸ hk')
        rw [hk, hks]
  · exact .inr ha

end Pattern

end Casebook
