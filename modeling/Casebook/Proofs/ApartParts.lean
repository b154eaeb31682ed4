import Casebook.Proofs.MatchByParts
import Casebook.Proofs.RecordedKeys
import Casebook.Proofs.RepeatedNames

/-!
# Casebook.Proofs.ApartParts

Parts of a pattern that have no key in common, and so do not write over each other's captures.

* `Selections.Apart` — results without a common key;
* `gather_perm` — their captures are merged in any order;
* `get?_gather` — what one of them holds is still there when all are merged;
* `Pattern.apart_match?`, `apart_matchField?`, `apart_zipWith` — patterns without a common key have
  such results.
-/

namespace Casebook

namespace Selections

/-- The selections of two results, if they are successes, have no key in common. -/
def Apart (o o' : Option Selections) : Prop :=
  ∀ s ∈ o, ∀ t ∈ o', ∀ k, s.contains k = true → t.contains k = false

theorem apart_symm {o o' : Option Selections} (h : Apart o o') : Apart o' o := by
  intro t ht s hs k hk
  cases hc : s.contains k with
  | false => rfl
  | true =>
      rw [h s hs t ht k hc] at hk
      cases hk

/-- Two neighbours without a common key may change places. -/
theorem gather_swap {o o' : Option Selections} (h : Apart o o') (os : List (Option Selections)) :
    gather (o :: o' :: os) = gather (o' :: o :: os) := by
  cases o with
  | none => cases o' <;> rfl
  | some s =>
      cases o' with
      | none => rfl
      | some t =>
          have hcomm : s.merge t = t.merge s := merge_comm (h s rfl t rfl)
          simp only [gather, Option.bind_some, Option.map_map]
          congr 1
          funext u
          rw [Function.comp_apply, Function.comp_apply, ← merge_assoc, hcomm, merge_assoc]

/-- Parts without a common key may be merged in any order. -/
theorem gather_perm {os os' : List (Option Selections)} (hperm : os.Perm os')
    (h : os.Pairwise Apart) : gather os = gather os' := by
  induction hperm with
  | nil => rfl
  | cons o _ ih => rw [gather, gather, ih (List.pairwise_cons.mp h).2]
  | swap o o' os => exact gather_swap ((List.pairwise_cons.mp h).1 o List.mem_cons_self) os
  | trans hperm _ ih ih' => exact (ih h).trans (ih' ((hperm.pairwise_iff apart_symm).mp h))

/-! ## one of many -/

variable {os : List (Option Selections)} {s t : Selections}

/-- If there are captures of all parts, there are some of each. -/
theorem exists_of_gather (h : gather os = some s) {o : Option Selections} (ho : o ∈ os) :
    ∃ t, o = some t := by
  have hall : os.all Option.isSome = true := by rw [← isSome_gather, h]; rfl
  exact Option.isSome_iff_exists.mp (List.all_eq_true.mp hall o ho)

/-- The parts together hold what one of them holds. -/
theorem contains_gather (h : gather os = some s) (k : SelectionKey) :
    s.contains k = true ↔ ∃ t, some t ∈ os ∧ t.contains k = true := by
  induction os generalizing s with
  | nil =>
      obtain rfl := Option.some.inj h
      simp
  | cons o os ih =>
      obtain ⟨a, rfl, h⟩ := Option.bind_eq_some_iff.mp h
      obtain ⟨b, hb, rfl⟩ := Option.map_eq_some_iff.mp h
      rw [contains_merge, Bool.or_eq_true, ih hb]
      simp only [List.mem_cons, Option.some.injEq, or_and_right, exists_or, exists_eq_left]
      exact or_comm

/-- No other part writes over a capture. -/
theorem get?_gather (h : gather os = some s) (hapart : os.Pairwise Apart) (ht : some t ∈ os)
    {k : SelectionKey} (hk : t.contains k = true) : s.get? k = t.get? k := by
  induction os generalizing s with
  | nil => cases ht
  | cons o os ih =>
      obtain ⟨a, rfl, h⟩ := Option.bind_eq_some_iff.mp h
      obtain ⟨b, hb, rfl⟩ := Option.map_eq_some_iff.mp h
      obtain ⟨ha, hos⟩ := List.pairwise_cons.mp hapart
      rw [get?_merge]
      rcases List.mem_cons.mp ht with heq | hmem
      · obtain rfl := Option.some.inj heq
        -- what comes after it holds other keys
        have hnone : b.get? k = none := by
          rw [get?_eq_none_iff]
          intro hsome
          obtain ⟨u, hu, hku⟩ := (contains_gather hb k).mp hsome
          rw [ha (some u) hu t rfl u rfl k hk] at hku
          cases hku
        rw [hnone]
        rfl
      · rw [ih hb hos hmem]
        obtain ⟨c, hc⟩ := Option.isSome_iff_exists.mp hk
        rw [hc]
        rfl

end Selections

namespace Pattern

variable {p q : Pattern}

/-- Patterns without a common key have results without one, whatever values they match, since a
pattern captures under its own keys. -/
theorem apart_match? (h : Apart p q) (v w : Value) :
    Selections.Apart (p.match? v) (q.match? w) := by
  intro s hs t ht k hk
  rw [contains_match? hs] at hk
  exact Bool.eq_false_iff.mpr fun hc => h k hk ((contains_match? ht k).mp hc)

/-- The pattern of a field sees the property of its name, or `undefined`. -/
theorem match?_of_matchField? {f : String × Pattern} {props : Props Value} {s : Selections}
    (h : matchField? f props = some s) :
    f.2.match? ((props.lookup f.1).getD .undefined) = some s := by
  rw [matchField?] at h
  split at h
  case h_1 v hv => rwa [hv]
  case h_2 hv =>
      rw [hv]
      split at h
      case isTrue => exact h
      case isFalse => cases h

/-- The patterns of two fields without a common key have results without one, each for its own
property. -/
theorem apart_matchField? {f g : String × Pattern} (h : Apart f.2 g.2) (props : Props Value) :
    Selections.Apart (matchField? f props) (matchField? g props) := by
  intro s hs t ht
  exact apart_match? h _ _ s (match?_of_matchField? hs) t (match?_of_matchField? ht)

theorem apart_map {ps : List Pattern} (h : ps.Pairwise Apart) (v : Value) :
    (ps.map fun p => p.match? v).Pairwise Selections.Apart :=
  List.pairwise_map.mpr (h.imp fun hpq => apart_match? hpq v v)

theorem apart_fields {fields : List (String × Pattern)}
    (h : (fields.map Prod.snd).Pairwise Apart) (props : Props Value) :
    (fields.map fun f => matchField? f props).Pairwise Selections.Apart :=
  List.pairwise_map.mpr ((List.pairwise_map.mp h).imp fun hfg => apart_matchField? hfg props)

theorem apart_zipWith {ps : List Pattern} (h : ps.Pairwise Apart) (vs : List Value) :
    (List.zipWith match? ps vs).Pairwise Selections.Apart := by
  rw [List.pairwise_iff_getElem] at h ⊢
  intro i j hi hj hij
  rw [List.getElem_zipWith, List.getElem_zipWith]
  exact apart_match? (h i j _ _ hij) _ _

end Pattern

end Casebook
