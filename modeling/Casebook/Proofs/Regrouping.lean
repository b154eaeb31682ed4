import Casebook.Proofs.MatchByParts
import Casebook.Proofs.Occurrences

/-!
# Casebook.Proofs.Regrouping

The nesting of alternatives and of conjunctions does not matter, one part is as good as the part by
itself, and an optional pattern is an alternative.

* `Pattern.Interchangeable` — patterns that match and capture the same, with the same verdict of
  each check;
* `SameVerdict`, `sameVerdict_of_repeats` — the check of the rules finds the same, up to the order
  in which it lists names;
* `match?_any_nested`, `match?_all_nested` — what nested parts capture;
* `repeats_any`, `repeats_all` — the keys that an alternative and a conjunction capture twice;
* `interchangeable_regrouped` — the five ways of regrouping.
-/

namespace Casebook.Pattern

open Selections

/-- The same error, or the same names in whatever order. -/
def SameVerdict : Except MatchError (List String) → Except MatchError (List String) → Prop
  | .ok names, .ok names' => ∀ name, name ∈ names ↔ name ∈ names'
  | .error e, .error e' => e = e'
  | .ok _, .error _ | .error _, .ok _ => False

/-- Each of the patterns may stand for the other: on top of any selections they match the same
values and then leave the same selections, and nothing that is read off their form tells them
apart. -/
structure Interchangeable (p q : Pattern) : Prop where
  matched_eq : ∀ v out, (matchInto p v out).1 = (matchInto q v out).1
  selections_eq : ∀ v out, (matchInto p v out).1 = true →
    (matchInto p v out).2 = (matchInto q v out).2
  isIrrefutable_eq : p.isIrrefutable = q.isIrrefutable
  keys_eq : p.keys = q.keys
  sameVerdict : SameVerdict p.validate q.validate

variable {p q : Pattern} (ps xs ys zs : List Pattern) {k : SelectionKey}

/-! ## the verdict of the check -/

/-- The rule that is broken depends on which keys there are and which are captured twice. -/
theorem fault?_congr (hkeys : ∀ k, k ∈ p.keys ↔ k ∈ q.keys)
    (hrepeats : ∀ k, p.census.Repeats k ↔ q.census.Repeats k) : p.fault? = q.fault? := by
  have htwo : 1 < p.census.anonymous ↔ 1 < q.census.anonymous := hrepeats .anonymous
  have hone : 0 < p.census.anonymous ↔ 0 < q.census.anonymous :=
    (holds_census p .anonymous).trans ((hkeys _).trans (holds_census q .anonymous).symm)
  have hnamed : p.census.named ≠ [] ↔ q.census.named ≠ [] := by
    simp only [named_ne_nil_iff, ← mem_keys_iff_selects, hkeys]
  rw [fault?, fault?]
  simp only [htwo, hone, hnamed]

/-- Patterns with the same keys that capture the same keys twice get the same verdict. -/
theorem sameVerdict_of_repeats (hkeys : p.keys = q.keys)
    (hrepeats : ∀ k, p.census.Repeats k ↔ q.census.Repeats k) :
    SameVerdict p.validate q.validate := by
  have hfault : p.fault? = q.fault? := fault?_congr (fun k => hkeys ▸ Iff.rfl) hrepeats
  rw [validate, validate, hfault]
  cases q.fault? with
  | none => exact fun name => hrepeats (.named name)
  | some cause => rfl

/-- Results that yield the same selections agree on the decision and, after a match, on what is
left. -/
theorem eq_of_ofResult?_eq {r r' : Bool × Selections} (h : ofResult? r = ofResult? r') :
    r.1 = r'.1 ∧ (r.1 = true → r.2 = r'.2) := by
  obtain ⟨_ | _, s⟩ := r <;> obtain ⟨_ | _, s'⟩ := r' <;> simp_all [ofResult?]

/-- Captures on top of others are those of the match by itself, so these are enough. -/
theorem interchangeable_of_match?_eq (hmatch : ∀ v, p.match? v = q.match? v)
    (hirrefutable : p.isIrrefutable = q.isIrrefutable) (hkeys : p.keys = q.keys)
    (hrepeats : ∀ k, p.census.Repeats k ↔ q.census.Repeats k) : Interchangeable p q := by
  have hresult : ∀ v out, ofResult? (matchInto p v out) = ofResult? (matchInto q v out) := by
    intro v out
    rw [ofResult?_matchInto, ofResult?_matchInto, hmatch]
  exact ⟨fun v out => (eq_of_ofResult?_eq (hresult v out)).1,
    fun v out => (eq_of_ofResult?_eq (hresult v out)).2, hirrefutable, hkeys,
    sameVerdict_of_repeats hkeys hrepeats⟩

/-! ## irrefutability and keys -/

theorem allIrrefutable_eq_all : allIrrefutable ps = ps.all isIrrefutable := by
  induction ps with
  | nil => rfl
  | cons p ps ih => rw [allIrrefutable, ih, List.all_cons]

theorem anyIrrefutable_eq_any : anyIrrefutable ps = ps.any isIrrefutable := by
  induction ps with
  | nil => rfl
  | cons p ps ih => rw [anyIrrefutable, ih, List.any_cons]

/-- Keys are collected from two lists one after the other. -/
theorem collectParts_append (keys : List SelectionKey) :
    collectParts keys (xs ++ ys) = collectParts (collectParts keys xs) ys := by
  induction xs generalizing keys with
  | nil => rfl
  | cons x xs ih => exact ih (collect keys x)

/-- A pattern that is walked part by part may be replaced by its parts. -/
theorem collectParts_nested (hq : ∀ keys, collect keys q = collectParts keys ys) :
    collectParts [] (xs ++ [q] ++ zs) = collectParts [] (xs ++ ys ++ zs) := by
  simp only [collectParts_append, collectParts, hq]

/-! ## captures -/

/-- A choice among alternatives captures as if its own alternatives stood in its place. -/
theorem match?_any_nested (v : Value) :
    (any (xs ++ [any ys] ++ zs)).match? v = (any (xs ++ ys ++ zs)).match? v := by
  have hkeys : (any (xs ++ [any ys] ++ zs)).keys = (any (xs ++ ys ++ zs)).keys :=
    collectParts_nested xs ys zs fun _ => rfl
  have hinner : ∀ k ∈ (any ys).keys, k ∈ (any (xs ++ ys ++ zs)).keys := by
    intro k hk
    rw [mem_keys_any] at hk ⊢
    simp only [List.flatMap_append, List.mem_append]
    exact .inl (.inr hk)
  rw [match?_any_eq_filledUp, match?_any_eq_filledUp, hkeys]
  simp only [List.findSome?_append, List.findSome?_cons, List.findSome?_nil,
    match?_any_eq_filledUp ys]
  cases xs.findSome? fun p => p.match? v with
  | some branch => rfl
  | none =>
      cases ys.findSome? fun p => p.match? v with
      | none => rfl
      | some branch =>
          -- the inner alternative fills up its own keys, the outer one all of them
          exact congrArg some (filledUp_filledUp hinner branch)

/-- A choice of one alternative captures what that one does. -/
theorem match?_any_singleton (p : Pattern) (v : Value) : (any [p]).match? v = p.match? v := by
  rw [match?_any_eq_filledUp, List.findSome?_cons]
  cases hp : p.match? v with
  | none => rfl
  | some s => exact congrArg some (filledUp_eq_self fun k hk => (contains_match? hp k).mpr hk)

/-- A conjunction among parts captures as if its own parts stood in its place. -/
theorem match?_all_nested (v : Value) :
    (all (xs ++ [all ys] ++ zs)).match? v = (all (xs ++ ys ++ zs)).match? v := by
  simp only [match?_all, List.map_append, List.map_cons, List.map_nil, gather_append,
    gather_singleton]

/-- A conjunction of one part captures what that one does. -/
theorem match?_all_singleton (p : Pattern) (v : Value) : (all [p]).match? v = p.match? v := by
  rw [match?_all, List.map_singleton, gather_singleton]

/-- `undefined` is an alternative without captures, which are filled up with `undefined`. -/
theorem match?_optional_eq_any (p : Pattern) (v : Value) :
    (optional p).match? v = (any [kind .undefined, p]).match? v := by
  rw [match?_optional, match?_any_eq_filledUp]
  cases hv : v.isUndefined with
  | true =>
      have hundefined : (kind .undefined).match? v = some ∅ := by
        cases v <;> first | rfl | cases hv
      rw [List.findSome?_cons, hundefined]
      refine congrArg some (ext_get? fun k => ?_)
      rw [recordUndefined, get?_foldl_record, get?_filledUp, contains_empty, get?_empty]
      rfl
  | false =>
      have hkind : (kind .undefined).match? v = none := by
        cases v <;> first | rfl | cases hv
      rw [List.findSome?_cons, hkind, ← match?_any_singleton p, match?_any_eq_filledUp]
      rfl

/-! ## keys captured twice -/

/-- A choice captures a key twice only if one alternative does. -/
theorem repeats_any : (any ps).census.Repeats k ↔ ∃ p ∈ ps, p.census.Repeats k := by
  rw [census, repeats_censusEither, or_iff_right (Census.not_repeats_empty k)]

/-- A conjunction captures a key twice if one part does, or if two parts have it. -/
theorem repeats_all :
    (all ps).census.Repeats k ↔ (∃ p ∈ ps, p.census.Repeats k) ∨
      ¬ ps.Pairwise fun p q => k ∈ p.keys → k ∉ q.keys := by
  rw [census, repeats_censusTogether]
  simp [Census.not_repeats_empty, Census.not_holds_empty]

/-- Nested parts share a key with each other, or with those around them, or not at all. -/
theorem pairwise_nested :
    (xs ++ [all ys] ++ zs).Pairwise (fun p q => k ∈ p.keys → k ∉ q.keys) ∧
        ys.Pairwise (fun p q => k ∈ p.keys → k ∉ q.keys) ↔
      (xs ++ ys ++ zs).Pairwise fun p q => k ∈ p.keys → k ∉ q.keys := by
  have hkeys : k ∈ (all ys).keys ↔ ∃ y ∈ ys, k ∈ y.keys := mem_keys_any.trans List.mem_flatMap
  simp only [List.pairwise_append, List.pairwise_singleton, List.mem_append, List.mem_singleton]
  grind

/-- To nest parts does not change which keys are captured twice. -/
theorem repeats_all_nested :
    (all (xs ++ [all ys] ++ zs)).census.Repeats k ↔
      (all (xs ++ ys ++ zs)).census.Repeats k := by
  rw [repeats_all, repeats_all, ← pairwise_nested xs ys zs]
  have hinner := repeats_all ys (k := k)
  simp only [List.mem_append, List.mem_singleton]
  grind

/-! ## regrouping -/

/-- A choice inside a choice may be dissolved. -/
theorem interchangeable_any_nested :
    Interchangeable (any (xs ++ [any ys] ++ zs)) (any (xs ++ ys ++ zs)) := by
  apply interchangeable_of_match?_eq (match?_any_nested xs ys zs)
  · simp only [isIrrefutable, anyIrrefutable_eq_any, List.any_append, List.any_cons, List.any_nil,
      Bool.or_false]
  · exact collectParts_nested xs ys zs fun _ => rfl
  · intro k
    have hinner := repeats_any ys (k := k)
    simp only [repeats_any, List.mem_append, List.mem_singleton]
    grind

/-- A conjunction inside a conjunction may be dissolved. -/
theorem interchangeable_all_nested :
    Interchangeable (all (xs ++ [all ys] ++ zs)) (all (xs ++ ys ++ zs)) := by
  apply interchangeable_of_match?_eq (match?_all_nested xs ys zs)
  · simp only [isIrrefutable, allIrrefutable_eq_all, List.all_append, List.all_cons, List.all_nil,
      Bool.and_true]
  · exact collectParts_nested xs ys zs fun _ => rfl
  · exact fun k => repeats_all_nested xs ys zs

/-- A choice of one alternative may stand for it. -/
theorem interchangeable_any_singleton (p : Pattern) : Interchangeable (any [p]) p := by
  apply interchangeable_of_match?_eq (match?_any_singleton p)
  · exact Bool.or_false p.isIrrefutable
  · rfl
  · intro k
    rw [repeats_any]
    simp only [List.mem_singleton, exists_eq_left]

/-- A conjunction of one part may stand for it. -/
theorem interchangeable_all_singleton (p : Pattern) : Interchangeable (all [p]) p := by
  apply interchangeable_of_match?_eq (match?_all_singleton p)
  · exact Bool.and_true p.isIrrefutable
  · rfl
  · intro k
    rw [repeats_all]
    simp only [List.mem_singleton, exists_eq_left, List.pairwise_singleton, not_true, or_false]

/-- An optional pattern is a choice between an absent value and the pattern. -/
theorem interchangeable_optional (p : Pattern) :
    Interchangeable (optional p) (any [kind .undefined, p]) := by
  apply interchangeable_of_match?_eq (match?_optional_eq_any p)
  · simp only [isIrrefutable, anyIrrefutable, Bool.false_or, Bool.or_false]
  · rfl
  · intro k
    have hkind : ¬ (kind .undefined).census.Repeats k := Census.not_repeats_empty k
    rw [repeats_any]
    simp only [List.mem_cons, List.not_mem_nil, or_false, exists_eq_or_imp, exists_eq_left,
      hkind, false_or]
    rfl

/-- **Regrouping changes nothing.**  Alternatives within alternatives and conjunctions within
conjunctions may be written out among the parts around them.  A single part may stand by itself, and
an optional pattern is the alternative of `undefined` and its inner pattern. -/
theorem interchangeable_regrouped (xs ys zs : List Pattern) (p : Pattern) :
    Interchangeable (any (xs ++ [any ys] ++ zs)) (any (xs ++ ys ++ zs)) ∧
    Interchangeable (all (xs ++ [all ys] ++ zs)) (all (xs ++ ys ++ zs)) ∧
    Interchangeable (any [p]) p ∧
    Interchangeable (all [p]) p ∧
    Interchangeable (optional p) (any [kind .undefined, p]) :=
  ⟨interchangeable_any_nested xs ys zs, interchangeable_all_nested xs ys zs,
    interchangeable_any_singleton p, interchangeable_all_singleton p, interchangeable_optional p⟩

/-- The order in which names are reported does show the nesting. -/
example :
    (all [select (.named "a") none, all [select (.named "b") none, select (.named "b") none,
      select (.named "a") none]]).validate = .ok ["a", "b"] ∧
    (all [select (.named "a") none, select (.named "b") none, select (.named "b") none,
      select (.named "a") none]).validate = .ok ["b", "a"] := ⟨rfl, rfl⟩

end Casebook.Pattern
