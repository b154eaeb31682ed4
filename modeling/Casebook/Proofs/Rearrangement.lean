import Casebook.Proofs.ApartParts
import Mathlib.Data.List.Forall2

/-!
# Casebook.Proofs.Rearrangement

The order of the parts of a conjunction, and of the fields of an object shape, decides which of
two captures under one key is the last.  It decides nothing else, so where no key is captured
twice it does not matter.

* `Pattern.Rearranged` — the same pattern with its parts and fields in another order, at any depth;
* `Alike` — patterns that their context cannot tell apart, with a lemma for each form:
  what captures nothing outside, as a negation, only has to match the same values;
* `alike_of_rearranged` — a rearranged pattern is alike;
* `match?_eq_of_rearranged` — so it captures the same, if no key is captured twice.
-/

namespace Casebook

open List (Forall₂)

namespace Selections

variable {keys keys' : List SelectionKey}

/-! ## keys in any order -/

/-- It does not matter in which order absent captures are recorded. -/
theorem recordUndefined_congr (h : ∀ k, k ∈ keys ↔ k ∈ keys') (s : Selections) :
    s.recordUndefined keys = s.recordUndefined keys' := by
  apply ext_get?
  intro k
  rw [recordUndefined, recordUndefined, get?_foldl_record, get?_foldl_record]
  simp only [h]

/-- It does not matter in which order columns are recorded, since each key has its own. -/
theorem recordColumns_congr (h : ∀ k, k ∈ keys ↔ k ∈ keys') (s : Selections)
    (rows : List Selections) : s.recordColumns rows keys = s.recordColumns rows keys' := by
  apply ext_get?
  intro k
  rw [recordColumns, recordColumns, get?_foldl_record, get?_foldl_record]
  simp only [h]

end Selections

/-! ## lists of functions that are equal one by one -/

section Lists

variable {β γ δ : Type} {bs bs' : List β}

/-- Lists whose elements are related in pairs have the same images under a function that does not
tell such a pair apart. -/
theorem map_eq_of_forall₂ {R : β → β → Prop} {f : β → δ} (h : Forall₂ R bs bs')
    (hf : ∀ b ∈ bs, ∀ b', R b b' → f b = f b') : bs.map f = bs'.map f := by
  induction h with
  | nil => rfl
  | @cons b b' _ _ hb _ ih =>
      rw [List.forall_mem_cons] at hf
      rw [List.map_cons, List.map_cons, hf.1 b' hb, ih hf.2]

/-- Functions that are equal one by one have equal values. -/
theorem map_apply_eq {f : β → γ → δ} (h : bs.map f = bs'.map f) (c : γ) :
    (bs.map fun b => f b c) = bs'.map fun b => f b c := by
  have hc := congrArg (List.map fun m => m c) h
  rwa [List.map_map, List.map_map] at hc

theorem all_apply_eq {f : β → γ → Bool} (h : bs.map f = bs'.map f) (c : γ) :
    (bs.all fun b => f b c) = bs'.all fun b => f b c := by
  have hall : ∀ bs : List β, (bs.all fun b => f b c) = (bs.map fun b => f b c).all id := by
    intro bs
    rw [List.all_map, Function.id_comp]
  rw [hall, hall, map_apply_eq h]

theorem any_apply_eq {f : β → γ → Bool} (h : bs.map f = bs'.map f) (c : γ) :
    (bs.any fun b => f b c) = bs'.any fun b => f b c := by
  have hany : ∀ bs : List β, (bs.any fun b => f b c) = (bs.map fun b => f b c).any id := by
    intro bs
    rw [List.any_map, Function.id_comp]
  rw [hany, hany, map_apply_eq h]

theorem findSome?_apply_eq {f : β → γ → Option δ} (h : bs.map f = bs'.map f) (c : γ) :
    (bs.findSome? fun b => f b c) = bs'.findSome? fun b => f b c := by
  have hfirst : ∀ bs : List β,
      (bs.findSome? fun b => f b c) = (bs.map fun b => f b c).findSome? id := by
    intro bs
    rw [List.findSome?_map, Function.id_comp]
  rw [hfirst, hfirst, map_apply_eq h]

theorem zipWith_eq {f : β → γ → δ} (h : bs.map f = bs'.map f) (cs : List γ) :
    List.zipWith f bs cs = List.zipWith f bs' cs := by
  have hmap : ∀ bs : List β,
      List.zipWith f bs cs = List.zipWith (fun m c => m c) (bs.map f) cs := by
    intro bs
    rw [List.zipWith_map_left]
  rw [hmap bs, h, ← hmap bs']

end Lists

namespace Pattern

open Selections (gather)

/-! ## rearranged patterns -/

mutual

/-- The second pattern is the first one, but for the order of the parts of some conjunctions and
of the fields of some object shapes, anywhere in it. -/
inductive Rearranged : Pattern → Pattern → Prop
  | refl (p : Pattern) : Rearranged p p
  | select (key : SelectionKey) {p q : Pattern} :
      Rearranged p q → Rearranged (select key (some p)) (select key (some q))
  | object {fields fields' fields'' : List (String × Pattern)} :
      Forall₂ RearrangedField fields fields' → fields'.Perm fields'' →
        Rearranged (object fields) (object fields'')
  | tuple {ps qs : List Pattern} : Forall₂ Rearranged ps qs → Rearranged (tuple ps) (tuple qs)
  | each {p q : Pattern} : Rearranged p q → Rearranged (each p) (each q)
  | not {p q : Pattern} : Rearranged p q → Rearranged (not p) (not q)
  | all {ps qs rs : List Pattern} :
      Forall₂ Rearranged ps qs → qs.Perm rs → Rearranged (all ps) (all rs)
  | any {ps qs : List Pattern} : Forall₂ Rearranged ps qs → Rearranged (any ps) (any qs)
  | optional {p q : Pattern} : Rearranged p q → Rearranged (optional p) (optional q)

/-- A field of the same name, whose pattern may be rearranged. -/
inductive RearrangedField : String × Pattern → String × Pattern → Prop
  | field (name : String) {p q : Pattern} :
      Rearranged p q → RearrangedField (name, p) (name, q)

end

/-! ## patterns that are alike -/

/-- All that the pattern around it can tell of a pattern: its keys, the values it matches and,
where no key is captured twice, what it captures. -/
structure Alike (p q : Pattern) : Prop where
  mem_keys_iff : ∀ k, k ∈ p.keys ↔ k ∈ q.keys
  isOptional_eq : p.isOptional = q.isOptional
  matches_eq : p.matches = q.matches
  match?_eq : p.census.NoRepeats → p.match? = q.match?

/-- Fields of one name whose patterns are alike. -/
structure AlikeField (f g : String × Pattern) : Prop where
  name_eq : f.1 = g.1
  alike : Alike f.2 g.2

variable {p q : Pattern} {ps qs rs : List Pattern} {fields fields' : List (String × Pattern)}

/-- Every pattern is like itself. -/
theorem alike_refl (p : Pattern) : Alike p p := ⟨fun _ => Iff.rfl, rfl, rfl, fun _ => rfl⟩

/-! ### lists of patterns that are alike -/

/-- Lists of patterns that are alike have the same keys. -/
theorem mem_flatMap_keys_iff (h : Forall₂ Alike ps qs) (k : SelectionKey) :
    k ∈ ps.flatMap keys ↔ k ∈ qs.flatMap keys := by
  induction h with
  | nil => exact Iff.rfl
  | cons hp _ ih =>
      rw [List.flatMap_cons, List.flatMap_cons, List.mem_append, List.mem_append,
        hp.mem_keys_iff, ih]

/-- Choices between alternatives that are alike have the same keys. -/
theorem mem_keys_any_iff (h : Forall₂ Alike ps qs) (k : SelectionKey) :
    k ∈ (any ps).keys ↔ k ∈ (any qs).keys := by
  rw [mem_keys_any, mem_keys_any, mem_flatMap_keys_iff h]

theorem map_matches_eq (h : Forall₂ Alike ps qs) : ps.map «matches» = qs.map «matches» :=
  map_eq_of_forall₂ h fun _ _ _ hp => hp.matches_eq

/-- Patterns that are alike capture the same, one by one, where none captures a key twice. -/
theorem map_match?_eq (h : Forall₂ Alike ps qs) (hps : ∀ p ∈ ps, p.census.NoRepeats) :
    ps.map match? = qs.map match? :=
  map_eq_of_forall₂ h fun p hmem _ hp => hp.match?_eq (hps p hmem)

theorem forall₂_map_snd (h : Forall₂ AlikeField fields fields') :
    Forall₂ Alike (fields.map Prod.snd) (fields'.map Prod.snd) :=
  List.forall₂_map_left_iff.mpr (List.forall₂_map_right_iff.mpr (h.imp fun _ _ hf => hf.alike))

theorem map_matchesField_eq (h : Forall₂ AlikeField fields fields') :
    fields.map matchesField = fields'.map matchesField := by
  apply map_eq_of_forall₂ h
  intro f _ g hf
  funext props
  rw [matchesField, matchesField, hf.name_eq, hf.alike.matches_eq, hf.alike.isOptional_eq]

/-- Fields of the same names whose patterns are alike capture the same, one by one. -/
theorem map_matchField?_eq (h : Forall₂ AlikeField fields fields')
    (hfields : ∀ p ∈ fields.map Prod.snd, p.census.NoRepeats) :
    fields.map matchField? = fields'.map matchField? := by
  apply map_eq_of_forall₂ h
  intro f hmem g hf
  funext props
  rw [matchField?, matchField?, hf.name_eq, hf.alike.isOptional_eq,
    hf.alike.match?_eq (hfields f.2 (List.mem_map_of_mem hmem))]

/-! ### each form of pattern -/

theorem alike_select (h : Alike p q) (key : SelectionKey) :
    Alike (select key (some p)) (select key (some q)) where
  mem_keys_iff k := by rw [mem_keys_select, mem_keys_select, h.mem_keys_iff]
  isOptional_eq := rfl
  matches_eq := by
    funext v
    rw [matches_select_some, matches_select_some, h.matches_eq]
  match?_eq hr := by
    funext v
    rw [match?_select_some, match?_select_some,
      h.match?_eq (noRepeats_of_mem_children rfl hr p List.mem_cons_self)]

theorem alike_each (h : Alike p q) : Alike (each p) (each q) where
  mem_keys_iff := h.mem_keys_iff
  isOptional_eq := rfl
  matches_eq := by
    funext v
    rw [matches_each, matches_each, h.matches_eq]
  match?_eq hr := by
    funext v
    rw [match?_each, match?_each, h.match?_eq hr]
    simp only [Selections.recordColumns_congr h.mem_keys_iff]

/-- A negation captures nothing: it does not matter what its inner pattern captures. -/
theorem alike_not (h : Alike p q) : Alike (not p) (not q) where
  mem_keys_iff _ := Iff.rfl
  isOptional_eq := rfl
  matches_eq := by
    funext v
    rw [matches_not, matches_not, h.matches_eq]
  match?_eq _ := by
    funext v
    rw [match?_not, match?_not, h.matches_eq]

theorem alike_optional (h : Alike p q) : Alike (optional p) (optional q) where
  mem_keys_iff := h.mem_keys_iff
  isOptional_eq := rfl
  matches_eq := by
    funext v
    rw [matches_optional, matches_optional, h.matches_eq]
  match?_eq hr := by
    funext v
    rw [match?_optional, match?_optional, h.match?_eq hr,
      Selections.recordUndefined_congr h.mem_keys_iff]

theorem alike_tuple (h : Forall₂ Alike ps qs) : Alike (tuple ps) (tuple qs) where
  mem_keys_iff k := by
    show k ∈ collectParts [] ps ↔ k ∈ collectParts [] qs
    rw [mem_collectParts_iff, mem_collectParts_iff, mem_flatMap_keys_iff h]
  isOptional_eq := rfl
  matches_eq := by
    funext v
    simp only [matches_tuple, h.length_eq, zipWith_eq (map_matches_eq h)]
  match?_eq hr := by
    funext v
    have hps : ∀ p ∈ ps, p.census.NoRepeats := noRepeats_of_mem_children rfl hr
    simp only [match?_tuple, h.length_eq, zipWith_eq (map_match?_eq h hps)]

/-- Choices between alternatives that are alike, in one order, are alike. -/
theorem alike_any (h : Forall₂ Alike ps qs) : Alike (any ps) (any qs) where
  mem_keys_iff := mem_keys_any_iff h
  isOptional_eq := rfl
  matches_eq := by
    funext v
    rw [matches_any, matches_any, any_apply_eq (map_matches_eq h)]
  match?_eq hr := by
    funext v
    rw [match?_any_eq_filledUp, match?_any_eq_filledUp,
      findSome?_apply_eq (map_match?_eq h (noRepeats_of_mem_children rfl hr))]
    simp only [Selections.filledUp_congr (mem_keys_any_iff h)]

/-- Conjunctions of parts that are alike, in whatever order, are alike: without a key in common it
does not matter which part captures last. -/
theorem alike_all (h : Forall₂ Alike ps qs) (hperm : qs.Perm rs) : Alike (all ps) (all rs) where
  mem_keys_iff k := by
    show k ∈ collectParts [] ps ↔ k ∈ collectParts [] rs
    rw [mem_collectParts_iff, mem_collectParts_iff, mem_flatMap_keys_iff h,
      (hperm.flatMap_right keys).mem_iff]
  isOptional_eq := rfl
  matches_eq := by
    funext v
    rw [matches_all, matches_all, ← hperm.all_eq, all_apply_eq (map_matches_eq h)]
  match?_eq hr := by
    funext v
    have hps : ∀ p ∈ ps, p.census.NoRepeats := noRepeats_of_mem_children rfl hr
    have hapart : ps.Pairwise Apart := apart_children rfl rfl hr
    have hmap : (ps.map fun p => p.match? v) = qs.map fun q => q.match? v :=
      map_apply_eq (map_match?_eq h hps) v
    rw [match?_all, match?_all]
    exact Selections.gather_perm (hmap ▸ hperm.map _) (apart_map hapart v)

/-- Object shapes with fields that are alike, in whatever order, are alike. -/
theorem alike_object {fields'' : List (String × Pattern)} (h : Forall₂ AlikeField fields fields')
    (hperm : fields'.Perm fields'') : Alike (object fields) (object fields'') where
  mem_keys_iff k := by
    show k ∈ collectFields [] fields ↔ k ∈ collectFields [] fields''
    rw [mem_collectFields_iff, mem_collectFields_iff, mem_flatMap_keys_iff (forall₂_map_snd h),
      ((hperm.map Prod.snd).flatMap_right keys).mem_iff]
  isOptional_eq := rfl
  matches_eq := by
    funext v
    rw [matches_object, matches_object]
    congr 1
    funext props
    rw [← hperm.all_eq, all_apply_eq (map_matchesField_eq h)]
  match?_eq hr := by
    funext v
    rw [match?_object, match?_object]
    congr 1
    funext props
    have hfields : ∀ p ∈ fields.map Prod.snd, p.census.NoRepeats :=
      noRepeats_of_mem_children rfl hr
    have hapart : (fields.map Prod.snd).Pairwise Apart := apart_children rfl rfl hr
    have hmap : (fields.map fun f => matchField? f props) =
        fields'.map fun f => matchField? f props :=
      map_apply_eq (map_matchField?_eq h hfields) props
    exact Selections.gather_perm (hmap ▸ hperm.map _) (apart_fields hapart props)

/-! ## rearranged patterns are alike -/

mutual

/-- A rearranged pattern is like the original. -/
theorem alike_of_rearranged (p : Pattern) {q : Pattern} (h : Rearranged p q) : Alike p q := by
  cases p with
  | literal _ | wildcard | kind _ | when _ =>
      cases h
      exact alike_refl _
  | select key inner =>
      cases inner with
      | none =>
          cases h
          exact alike_refl _
      | some p =>
          cases h with
          | refl => exact alike_refl _
          | select _ h => exact alike_select (alike_of_rearranged p h) key
  | object fields =>
      cases h with
      | refl => exact alike_refl _
      | object h hperm => exact alike_object (alikeFields_of_rearranged fields h) hperm
  | tuple ps =>
      cases h with
      | refl => exact alike_refl _
      | tuple h => exact alike_tuple (alikeParts_of_rearranged ps h)
  | each p =>
      cases h with
      | refl => exact alike_refl _
      | each h => exact alike_each (alike_of_rearranged p h)
  | not p =>
      cases h with
      | refl => exact alike_refl _
      | not h => exact alike_not (alike_of_rearranged p h)
  | all ps =>
      cases h with
      | refl => exact alike_refl _
      | all h hperm => exact alike_all (alikeParts_of_rearranged ps h) hperm
  | any ps =>
      cases h with
      | refl => exact alike_refl _
      | any h => exact alike_any (alikeParts_of_rearranged ps h)
  | optional p =>
      cases h with
      | refl => exact alike_refl _
      | optional h => exact alike_optional (alike_of_rearranged p h)

theorem alikeParts_of_rearranged (ps : List Pattern) {qs : List Pattern}
    (h : Forall₂ Rearranged ps qs) : Forall₂ Alike ps qs := by
  cases ps with
  | nil =>
      cases h
      exact .nil
  | cons p ps =>
      cases h with
      | cons hp hps => exact .cons (alike_of_rearranged p hp) (alikeParts_of_rearranged ps hps)

theorem alikeFields_of_rearranged (fields : List (String × Pattern))
    {fields' : List (String × Pattern)} (h : Forall₂ RearrangedField fields fields') :
    Forall₂ AlikeField fields fields' := by
  cases fields with
  | nil =>
      cases h
      exact .nil
  | cons f fields =>
      obtain ⟨name, p⟩ := f
      cases h with
      | cons hf hfields =>
          cases hf with
          | field _ hp =>
              exact .cons ⟨rfl, alike_of_rearranged p hp⟩ (alikeFields_of_rearranged fields hfields)

end

/-- **The order of parts does not matter** to a pattern that keeps the rules and captures no name
twice: rearranged in any way it matches the same values, and captures the same under every key. -/
theorem match?_eq_of_rearranged {p q : Pattern} (hp : p.validate = .ok [])
    (h : Rearranged p q) (v : Value) : p.match? v = q.match? v :=
  congrFun ((alike_of_rearranged p h).match?_eq (noRepeats_of_validate hp)) v

/-- Captures in a property that may be absent, in an alternative, and beside a negation. -/
def inOrder : Pattern :=
  object [("a", optional (select (.named "x") none)),
    ("b", any [select (.named "y") (some (kind .null)),
      each (all [select (.named "z") none, not (all [kind .null, kind .undefined])])])]

/-- The same with fields and parts the other way round, in the negation too. -/
def otherWayRound : Pattern :=
  object [("b", any [select (.named "y") (some (kind .null)),
      each (all [not (all [kind .undefined, kind .null]), select (.named "z") none])]),
    ("a", optional (select (.named "x") none))]

/-- The parts of a conjunction and the fields of a shape change places around optional and repeated
parts, and the captures are the same. -/
theorem match?_eq_of_rearranged_otherWayRound :
    inOrder.validate = .ok [] ∧ Rearranged inOrder otherWayRound ∧
      inOrder.match? (.object 0 [("b", .array 1 [.bool true])]) =
        some (Selections.ofList [(.named "x", .undefined), (.named "y", .undefined),
          (.named "z", .column [.part (.bool true)])]) ∧
      inOrder.match? (.object 0 [("b", .array 1 [.bool true])]) =
        otherWayRound.match? (.object 0 [("b", .array 1 [.bool true])]) := by
  have hnot : Rearranged (not (all [kind .null, kind .undefined]))
      (not (all [kind .undefined, kind .null])) :=
    .not (.all (.cons (.refl _) (.cons (.refl _) .nil)) (.swap ..))
  have hany : Rearranged
      (any [select (.named "y") (some (kind .null)),
        each (all [select (.named "z") none, not (all [kind .null, kind .undefined])])])
      (any [select (.named "y") (some (kind .null)),
        each (all [not (all [kind .undefined, kind .null]), select (.named "z") none])]) :=
    .any (.cons (.refl _)
      (.cons (.each (.all (.cons (.refl _) (.cons hnot .nil)) (.swap ..))) .nil))
  have hfields : Rearranged inOrder otherWayRound :=
    .object (.cons (.field "a" (.refl _)) (.cons (.field "b" hany) .nil)) (.swap ..)
  exact ⟨rfl, hfields, rfl, match?_eq_of_rearranged rfl hfields _⟩

end Pattern

end Casebook
