import Casebook.Value.Equality
import Mathlib.Data.List.Forall2
import Mathlib.Data.List.Sort

/-!
# Casebook.Proofs.StructuralEquality

The laws of structural equality.  It takes an identity that occurs on both sides for the same
contents, without looking, so its laws are those of a comparison of contents only as long as one
identity always stands for one array or object.

* `Value.equals_comm`, `equals_trans`, `equals_self_iff`, `equals_of_strictEquals` — it is an
  equivalence but for NaN, and coarser than strict equality;
* `Value.SameTree` — two values of one shape, compared without identities;
* `Props.forall₂_iff_lookup` — ordered properties agree place by place iff they agree key by key;
* `equals_iff_sameTree` — that is structural equality where no identity is shared;
* `equals_laws` — all of it together.
-/

namespace Casebook

universe u v

/-! ## properties place by place and key by key -/

namespace Props

variable {α : Type u} {β : Type v} {R : α → β → Prop} {ps : Props α} {qs : Props β}

open List (Forall₂)

/-- Objects that agree place by place have the same keys in the same order. -/
theorem keys_eq_of_forall₂ (h : Forall₂ (fun p q => p.1 = q.1 ∧ R p.2 q.2) ps qs) :
    keys ps = keys qs := by
  induction h with
  | nil => rfl
  | cons hpq _ ih => exact congrArg₂ List.cons hpq.1 ih

/-- Sorted objects with the same keys have them in the same order. -/
theorem keys_eq_of_mem_iff (hp : Sorted ps) (hq : Sorted qs)
    (h : ∀ key, key ∈ keys ps ↔ key ∈ keys qs) : keys ps = keys qs := by
  have hpk : (keys ps).Pairwise (· < ·) := List.pairwise_map.mpr hp
  have hqk : (keys qs).Pairwise (· < ·) := List.pairwise_map.mpr hq
  exact hpk.eq_of_mem_iff hqk h

/-- Objects that agree place by place agree under every key. -/
theorem lookup_of_forall₂ (h : Forall₂ (fun p q => p.1 = q.1 ∧ R p.2 q.2) ps qs) {key : String}
    {a : α} {b : β} (ha : lookup key ps = some a) (hb : lookup key qs = some b) : R a b := by
  induction h with
  | nil => cases ha
  | @cons p q ps qs hpq _ ih =>
      obtain ⟨k, a'⟩ := p
      obtain ⟨l, b'⟩ := q
      obtain ⟨rfl, hr⟩ := hpq
      rw [lookup_cons] at ha hb
      by_cases hk : k = key
      · rw [if_pos hk] at ha hb
        obtain rfl := Option.some.inj ha
        obtain rfl := Option.some.inj hb
        exact hr
      · rw [if_neg hk] at ha hb
        exact ih ha hb

/-- Sorted objects with the same keys that agree under each agree place by place. -/
theorem forall₂_of_lookup (hp : Sorted ps) (hq : Sorted qs) (hkeys : keys ps = keys qs)
    (h : ∀ key a b, lookup key ps = some a → lookup key qs = some b → R a b) :
    Forall₂ (fun p q => p.1 = q.1 ∧ R p.2 q.2) ps qs := by
  induction ps generalizing qs with
  | nil =>
      rw [List.map_eq_nil_iff.mp hkeys.symm]
      exact .nil
  | cons p ps ih =>
      cases qs with
      | nil => cases hkeys
      | cons q qs =>
          obtain ⟨k, a⟩ := p
          obtain ⟨l, b⟩ := q
          obtain ⟨rfl, htail⟩ : k = l ∧ keys ps = keys qs := List.cons.inj hkeys
          obtain ⟨hk, hp⟩ := List.pairwise_cons.mp hp
          obtain ⟨-, hq⟩ := List.pairwise_cons.mp hq
          refine .cons ⟨rfl, h k a b (if_pos rfl) (if_pos rfl)⟩ (ih hp hq htail ?_)
          intro key c d hc hd
          have hne : k ≠ key := by
            rintro rfl
            rw [lookup_eq_none_of_lt hk] at hc
            cases hc
          exact h key c d ((if_neg hne).trans hc) ((if_neg hne).trans hd)

/-- Ordered lists agree place by place iff they have the same keys and agree under each. -/
theorem forall₂_iff_lookup (hp : Sorted ps) (hq : Sorted qs) :
    Forall₂ (fun p q => p.1 = q.1 ∧ R p.2 q.2) ps qs ↔
      (∀ key, key ∈ keys ps ↔ key ∈ keys qs) ∧
        ∀ key a b, lookup key ps = some a → lookup key qs = some b → R a b := by
  constructor
  · intro h
    refine ⟨fun key => by rw [keys_eq_of_forall₂ h], fun key a b => lookup_of_forall₂ h⟩
  · rintro ⟨hkeys, h⟩
    exact forall₂_of_lookup hp hq (keys_eq_of_mem_iff hp hq hkeys) h

end Props

namespace Value

open List (Forall₂)

/-! ## laws that hold of all values -/

mutual

/-- Structural equality is symmetric. -/
theorem equals_comm (v w : Value) : v.equals w = w.equals v := by
  cases v with
  | number x =>
      cases w with
      | number y => exact Binary64.equal_comm x y
      | _ => rfl
  | array i vs =>
      cases w with
      | array j ws => rw [equals, equals, Bool.beq_comm, equalsItems_comm vs ws]
      | _ => rfl
  | object i ps =>
      cases w with
      | object j qs => rw [equals, equals, Bool.beq_comm, equalsProps_comm ps qs]
      | _ => rfl
  | bool b =>
      cases w with
      | bool c => exact Bool.beq_comm
      | _ => rfl
  | string s =>
      cases w with
      | string t => exact Bool.beq_comm
      | _ => rfl
  | undefined | null => cases w <;> rfl

theorem equalsItems_comm (vs ws : List Value) : equalsItems vs ws = equalsItems ws vs := by
  cases vs with
  | nil => cases ws <;> rfl
  | cons v vs =>
      cases ws with
      | nil => rfl
      | cons w ws => rw [equalsItems, equalsItems, equals_comm v w, equalsItems_comm vs ws]

theorem equalsProps_comm (ps qs : List (String × Value)) :
    equalsProps ps qs = equalsProps qs ps := by
  cases ps with
  | nil => cases qs <;> rfl
  | cons p ps =>
      cases qs with
      | nil => rfl
      | cons q qs =>
          rw [equalsProps, equalsProps, Bool.beq_comm, equals_comm p.2 q.2, equalsProps_comm ps qs]

end

/-- What is strictly equal is structurally equal: the same thing has the same contents. -/
theorem equals_of_strictEquals {v w : Value} (h : v.strictEquals w = true) : v.equals w = true := by
  cases v <;> cases w <;> first | exact h | exact (Bool.or_eq_true ..).mpr (.inl h)

/-- Only NaN differs from itself.  An array or object that holds it is the same as itself. -/
theorem equals_self_iff (v : Value) : v.equals v = true ↔ v ≠ number .nan := by
  cases v with
  | number x =>
      rw [ne_eq, number.injEq]
      exact Binary64.equal_self_iff x
  | array i vs => simp [equals]
  | object i ps => simp [equals]
  | undefined | null | bool _ | string _ => simp [equals]

/-! ## coherent identities -/

/-- An identity that occurs on both sides belongs to one array or object. -/
def Agree (vs ws : List Value) : Prop :=
  ∀ v ∈ vs, ∀ w ∈ ws, v.identity? = w.identity? → v = w

/-- No identity occurs on both sides. -/
def Apart (vs ws : List Value) : Prop :=
  ∀ v ∈ vs, ∀ w ∈ ws, v.identity? ≠ w.identity?

section Pairs

variable {R : Value → Value → Prop} {v w : Value} {vs vs' ws ws' : List Value}

/-- What holds of all pairs from two lists holds of their heads, and of all pairs from their
tails. -/
theorem pairs_of_cons (h : ∀ a ∈ v :: vs, ∀ b ∈ w :: ws, R a b) :
    R v w ∧ ∀ a ∈ vs, ∀ b ∈ ws, R a b :=
  ⟨h v List.mem_cons_self w List.mem_cons_self,
    fun a ha b hb => h a (List.mem_cons_of_mem v ha) b (List.mem_cons_of_mem w hb)⟩

/-- What holds of all pairs from two lists holds of all pairs from their first parts, and from their
second ones. -/
theorem pairs_of_append (h : ∀ a ∈ vs ++ vs', ∀ b ∈ ws ++ ws', R a b) :
    (∀ a ∈ vs, ∀ b ∈ ws, R a b) ∧ ∀ a ∈ vs', ∀ b ∈ ws', R a b :=
  ⟨fun a ha b hb => h a (List.mem_append_left vs' ha) b (List.mem_append_left ws' hb),
    fun a ha b hb => h a (List.mem_append_right vs ha) b (List.mem_append_right ws hb)⟩

end Pairs

variable {vs ws : List Value}

/-- Arrays are equal if they are the same one or their items are equal. -/
theorem equals_array_iff {i j : Nat} :
    (array i vs).equals (array j ws) = true ↔ i = j ∨ equalsItems vs ws = true := by
  rw [equals, Bool.or_eq_true, beq_iff_eq]

/-- Objects are equal if they are the same one or their properties are equal. -/
theorem equals_object_iff {i j : Nat} {ps qs : List (String × Value)} :
    (object i ps).equals (object j qs) = true ↔ i = j ∨ equalsProps ps qs = true := by
  rw [equals, Bool.or_eq_true, beq_iff_eq]

/- Each of the two steps meets an identity or compares contents.  Where one meets an identity, both
its sides are one value, and the other step is the whole way. -/

mutual

/-- Two equalities make a third one, if on both ways an identity stands for one value. -/
theorem equals_trans_of_agree (u v w : Value) (huv : Agree u.nodes v.nodes)
    (hvw : Agree v.nodes w.nodes) (h : u.equals v = true) (h' : v.equals w = true) :
    u.equals w = true := by
  cases u with
  | array i us =>
      cases v with
      | array j vs =>
          cases w with
          | array k ws =>
              obtain ⟨hij, huv⟩ := pairs_of_cons huv
              obtain ⟨hjk, hvw⟩ := pairs_of_cons hvw
              rcases equals_array_iff.mp h with rfl | hitems
              · rw [hij rfl]
                exact h'
              · rcases equals_array_iff.mp h' with rfl | hitems'
                · rw [← hjk rfl]
                  exact h
                · exact equals_array_iff.mpr
                    (.inr (equalsItems_trans_of_agree us vs ws huv hvw hitems hitems'))
          | _ => cases h'
      | _ => cases h
  | object i ps =>
      cases v with
      | object j qs =>
          cases w with
          | object k rs =>
              obtain ⟨hij, huv⟩ := pairs_of_cons huv
              obtain ⟨hjk, hvw⟩ := pairs_of_cons hvw
              rcases equals_object_iff.mp h with rfl | hprops
              · rw [hij rfl]
                exact h'
              · rcases equals_object_iff.mp h' with rfl | hprops'
                · rw [← hjk rfl]
                  exact h
                · exact equals_object_iff.mpr
                    (.inr (equalsProps_trans_of_agree ps qs rs huv hvw hprops hprops'))
          | _ => cases h'
      | _ => cases h
  | number x =>
      cases v with
      | number y =>
          cases w with
          | number z => exact Binary64.equal_trans h h'
          | _ => cases h'
      | _ => cases h
  | bool a =>
      cases v with
      | bool b =>
          obtain rfl : a = b := beq_iff_eq.mp h
          exact h'
      | _ => cases h
  | string s =>
      cases v with
      | string t =>
          obtain rfl : s = t := beq_iff_eq.mp h
          exact h'
      | _ => cases h
  | undefined | null => cases v <;> first | exact h' | cases h
termination_by structural u

theorem equalsItems_trans_of_agree (us vs ws : List Value)
    (huv : Agree (nodesItems us) (nodesItems vs)) (hvw : Agree (nodesItems vs) (nodesItems ws))
    (h : equalsItems us vs = true) (h' : equalsItems vs ws = true) :
    equalsItems us ws = true := by
  cases us with
  | nil =>
      cases vs with
      | nil => exact h'
      | cons v vs => cases h
  | cons u us =>
      cases vs with
      | nil => cases h
      | cons v vs =>
          cases ws with
          | nil => cases h'
          | cons w ws =>
              obtain ⟨huv, huvs⟩ := pairs_of_append huv
              obtain ⟨hvw, hvws⟩ := pairs_of_append hvw
              rw [equalsItems, Bool.and_eq_true] at h h' ⊢
              exact ⟨equals_trans_of_agree u v w huv hvw h.1 h'.1,
                equalsItems_trans_of_agree us vs ws huvs hvws h.2 h'.2⟩
termination_by structural us

theorem equalsProps_trans_of_agree (ps qs rs : List (String × Value))
    (hpq : Agree (nodesProps ps) (nodesProps qs)) (hqr : Agree (nodesProps qs) (nodesProps rs))
    (h : equalsProps ps qs = true) (h' : equalsProps qs rs = true) :
    equalsProps ps rs = true := by
  cases ps with
  | nil =>
      cases qs with
      | nil => exact h'
      | cons q qs => cases h
  | cons p ps =>
      cases qs with
      | nil => cases h
      | cons q qs =>
          cases rs with
          | nil => cases h'
          | cons r rs =>
              obtain ⟨k, u⟩ := p
              obtain ⟨l, v⟩ := q
              obtain ⟨m, w⟩ := r
              rw [equalsProps, Bool.and_eq_true, Bool.and_eq_true, beq_iff_eq] at h h' ⊢
              obtain ⟨⟨rfl, hu⟩, hps⟩ := h
              obtain ⟨⟨rfl, hv⟩, hqs⟩ := h'
              obtain ⟨huv, hpq⟩ := pairs_of_append hpq
              obtain ⟨hvw, hqr⟩ := pairs_of_append hqr
              exact ⟨⟨rfl, equals_trans_of_agree u v w huv hvw hu hv⟩,
                equalsProps_trans_of_agree ps qs rs hpq hqr hps hqs⟩
termination_by structural ps

end

/-- Structural equality is transitive between values whose identities are coherent. -/
theorem equals_trans {u v w : Value} (hc : Coherent [u, v, w]) (h : u.equals v = true)
    (h' : v.equals w = true) : u.equals w = true := by
  refine equals_trans_of_agree u v w (fun a ha b hb => hc a ?_ b ?_)
    (fun a ha b hb => hc a ?_ b ?_) h h' <;>
  simp [nodesItems, ha, hb]

/-! ## trees without identities -/

/-- Two values are the same tree: of one shape, with the same keys in every object and equal leaves.
Numbers are equal as IEEE doubles, so NaN is nowhere. -/
inductive SameTree : Value → Value → Prop
  | undefined : SameTree undefined undefined
  | null : SameTree null null
  | bool (b : Bool) : SameTree (bool b) (bool b)
  | number {x y : Binary64} : x.equal y = true → SameTree (number x) (number y)
  | string (s : String) : SameTree (string s) (string s)
  | array {i j : Nat} {vs ws : List Value} :
      Forall₂ SameTree vs ws → SameTree (array i vs) (array j ws)
  | object {i j : Nat} {ps qs : Props Value} :
      (∀ key, key ∈ Props.keys ps ↔ key ∈ Props.keys qs) →
      (∀ key v w, ps.lookup key = some v → qs.lookup key = some w → SameTree v w) →
      SameTree (object i ps) (object j qs)

theorem sameTree_number_iff {x y : Binary64} :
    SameTree (number x) (number y) ↔ x.equal y = true := by
  constructor
  · intro h
    cases h with
    | number hxy => exact hxy
  · exact .number

theorem sameTree_array_iff {i j : Nat} :
    SameTree (array i vs) (array j ws) ↔ Forall₂ SameTree vs ws := by
  constructor
  · intro h
    cases h with
    | array hitems => exact hitems
  · exact .array

/-- Objects are the same tree if they have the same keys, and the same tree under each. -/
theorem sameTree_object_iff {i j : Nat} {ps qs : Props Value} :
    SameTree (object i ps) (object j qs) ↔
      (∀ key, key ∈ Props.keys ps ↔ key ∈ Props.keys qs) ∧
        ∀ key v w, ps.lookup key = some v → qs.lookup key = some w → SameTree v w := by
  constructor
  · intro h
    cases h with
    | object hkeys hvalues => exact ⟨hkeys, hvalues⟩
  · rintro ⟨hkeys, hvalues⟩
    exact .object hkeys hvalues

/- Where no identity occurs on both sides, every comparison is one of contents. -/

mutual

/-- Values that share no identity are equal exactly if they are the same tree: nothing but their
contents is compared. -/
theorem equals_iff_sameTree (v w : Value) (hv : v.Ordered) (hw : w.Ordered)
    (h : Apart v.nodes w.nodes) : v.equals w = true ↔ SameTree v w := by
  cases v with
  | array i vs =>
      cases w with
      | array j ws =>
          obtain ⟨hij, h⟩ := pairs_of_cons h
          have hne : i ≠ j := fun he => hij (congrArg some he)
          rw [equals_array_iff, or_iff_right hne, equalsItems_iff_sameTree vs ws hv hw h,
            sameTree_array_iff]
      | _ => exact ⟨nofun, nofun⟩
  | object i ps =>
      cases w with
      | object j qs =>
          obtain ⟨hij, h⟩ := pairs_of_cons h
          have hne : i ≠ j := fun he => hij (congrArg some he)
          rw [equals_object_iff, or_iff_right hne, equalsProps_iff_sameTree ps qs hv.2 hw.2 h,
            Props.forall₂_iff_lookup hv.1 hw.1, sameTree_object_iff]
      | _ => exact ⟨nofun, nofun⟩
  | number x =>
      cases w with
      | number y => exact sameTree_number_iff.symm
      | _ => exact ⟨nofun, nofun⟩
  | bool b =>
      cases w with
      | bool c =>
          constructor
          · intro hbc
            obtain rfl : b = c := beq_iff_eq.mp hbc
            exact .bool b
          · intro hbc
            cases hbc with
            | bool b => exact beq_self_eq_true b
      | _ => exact ⟨nofun, nofun⟩
  | string s =>
      cases w with
      | string t =>
          constructor
          · intro hst
            obtain rfl : s = t := beq_iff_eq.mp hst
            exact .string s
          · intro hst
            cases hst with
            | string s => exact beq_self_eq_true s
      | _ => exact ⟨nofun, nofun⟩
  | undefined =>
      cases w with
      | undefined => exact iff_of_true rfl .undefined
      | _ => exact ⟨nofun, nofun⟩
  | null =>
      cases w with
      | null => exact iff_of_true rfl .null
      | _ => exact ⟨nofun, nofun⟩
termination_by structural v

theorem equalsItems_iff_sameTree (vs ws : List Value) (hv : OrderedItems vs) (hw : OrderedItems ws)
    (h : Apart (nodesItems vs) (nodesItems ws)) :
    equalsItems vs ws = true ↔ Forall₂ SameTree vs ws := by
  cases vs with
  | nil =>
      cases ws with
      | nil => exact ⟨fun _ => .nil, fun _ => rfl⟩
      | cons w ws => exact ⟨nofun, nofun⟩
  | cons v vs =>
      cases ws with
      | nil => exact ⟨nofun, nofun⟩
      | cons w ws =>
          obtain ⟨hvw, h⟩ := pairs_of_append h
          rw [equalsItems, Bool.and_eq_true, List.forall₂_cons,
            equals_iff_sameTree v w hv.1 hw.1 hvw, equalsItems_iff_sameTree vs ws hv.2 hw.2 h]
termination_by structural vs

theorem equalsProps_iff_sameTree (ps qs : List (String × Value)) (hp : OrderedProps ps)
    (hq : OrderedProps qs) (h : Apart (nodesProps ps) (nodesProps qs)) :
    equalsProps ps qs = true ↔ Forall₂ (fun p q => p.1 = q.1 ∧ SameTree p.2 q.2) ps qs := by
  cases ps with
  | nil =>
      cases qs with
      | nil => exact ⟨fun _ => .nil, fun _ => rfl⟩
      | cons q qs => exact ⟨nofun, nofun⟩
  | cons p ps =>
      cases qs with
      | nil => exact ⟨nofun, nofun⟩
      | cons q qs =>
          obtain ⟨k, v⟩ := p
          obtain ⟨l, w⟩ := q
          obtain ⟨hvw, h⟩ := pairs_of_append h
          rw [equalsProps, Bool.and_eq_true, Bool.and_eq_true, beq_iff_eq, List.forall₂_cons,
            equals_iff_sameTree v w hp.1 hq.1 hvw, equalsProps_iff_sameTree ps qs hp.2 hq.2 h]
termination_by structural ps

end

/-! ## the laws -/

/-- **Structural equality is an equivalence but for NaN.**  It is symmetric, holds wherever strict
equality does and fails of a value and itself only for NaN, not for what contains it.  As long as
one identity stands for one array or object it is transitive, whether the steps meet identities or
contents.  Values without a common identity are equal iff they are the same tree. -/
theorem equals_laws :
    (∀ v w : Value, v.equals w = w.equals v) ∧
    (∀ u v w : Value, Coherent [u, v, w] → u.equals v = true → v.equals w = true →
      u.equals w = true) ∧
    (∀ v w : Value, v.strictEquals w = true → v.equals w = true) ∧
    (∀ v : Value, v.equals v = true ↔ v ≠ number .nan) ∧
    ∀ v w : Value, v.Ordered → w.Ordered → Apart v.nodes w.nodes →
      (v.equals w = true ↔ SameTree v w) :=
  ⟨equals_comm, fun _ _ _ => equals_trans, fun _ _ => equals_of_strictEquals, equals_self_iff,
    equals_iff_sameTree⟩

/-- An array that holds NaN. -/
def holder : Value := .array 0 [.number .nan]

/-- An object with that array and one that holds a zero. -/
def wrapper (identity inner : Nat) (negative : Bool) : Value :=
  .object identity [("held", holder), ("zeros", .array inner [.number (.zero negative)])]

/-- Two of the wrappers share an array, and it is the same one in both. -/
theorem coherent_wrappers :
    Coherent [wrapper 1 2 false, wrapper 3 2 false, wrapper 4 5 true] := by
  intro a ha b hb hab
  simp only [wrapper, holder, nodesItems, nodesProps, nodes, List.mem_append, List.mem_cons,
    List.not_mem_nil, or_false, or_assoc] at ha hb
  rcases ha with rfl | rfl | rfl | rfl | rfl | rfl | rfl | rfl | rfl <;>
    rcases hb with rfl | rfl | rfl | rfl | rfl | rfl | rfl | rfl | rfl <;>
    first | rfl | cases hab

/-- Three wrappers, each equal to the next through an identity in one place and through contents in
the other, and two arrays of zeros that share nothing. -/
theorem equals_laws_wrappers :
    (wrapper 1 2 false).equals (wrapper 4 5 true) = true ∧
    holder.equals holder = true ∧
    SameTree (.array 6 [.array 7 [.number (.zero false)]])
      (.array 8 [.array 9 [.number (.zero true)]]) := by
  obtain ⟨-, htrans, hstrict, -, htree⟩ := equals_laws
  refine ⟨htrans _ _ _ coherent_wrappers rfl rfl, hstrict _ _ rfl, (htree _ _ ?_ ?_ ?_).mp rfl⟩
  · exact ⟨⟨trivial, trivial⟩, trivial⟩
  · exact ⟨⟨trivial, trivial⟩, trivial⟩
  · intro a ha b hb
    simp only [nodes, nodesItems, List.append_nil, List.mem_cons, List.not_mem_nil,
      or_false] at ha hb
    rcases ha with rfl | rfl <;> rcases hb with rfl | rfl <;> exact nofun

end Value

end Casebook
