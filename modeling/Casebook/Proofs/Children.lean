import Casebook.Pattern.Basic

/-!
# Casebook.Proofs.Children

A pattern as a tree.  Its nodes are reached by paths from the root, which say at each step which
child to go on with.

* `Pattern.children` — the patterns right below one;
* `Pattern.childInduction` — what holds of a pattern whenever it holds of its children holds of all;
* `Pattern.at?` — the node at the end of a path;
* `Pattern.Along` — a condition on every node on the way, with `along_nil` and `along_cons`;
* `commonPrefix` — the longest common beginning of two paths, which leads to the lowest node above
  both ends.
-/

namespace Casebook

namespace Pattern

/-- The patterns right below one, from left to right. -/
def children : Pattern → List Pattern
  | select _ (some p) | each p | not p | optional p => [p]
  | object fields => fields.map Prod.snd
  | tuple ps | all ps | any ps => ps
  | literal _ | wildcard | select _ none | kind _ | when _ => []

def isNegation : Pattern → Bool
  | not _ => true
  | _ => false

/-- Whether only one of the children captures. -/
def isChoice : Pattern → Bool
  | any _ => true
  | _ => false

/-! ## induction -/

variable {motive : Pattern → Prop}

mutual

/-- Induction on a pattern by way of its children, whatever its form. -/
@[elab_as_elim]
theorem childInduction (h : ∀ p, (∀ q ∈ p.children, motive q) → motive p) (p : Pattern) :
    motive p := by
  apply h
  cases p with
  | select key inner =>
      cases inner with
      | none => exact nofun
      | some p => exact List.forall_mem_singleton.mpr (childInduction h p)
  | object fields => exact childInductionFields h fields
  | tuple ps | all ps | any ps => exact childInductionParts h ps
  | each p | not p | optional p => exact List.forall_mem_singleton.mpr (childInduction h p)
  | literal _ | wildcard | kind _ | when _ => exact nofun

theorem childInductionParts (h : ∀ p, (∀ q ∈ p.children, motive q) → motive p)
    (ps : List Pattern) : ∀ q ∈ ps, motive q := by
  cases ps with
  | nil => exact nofun
  | cons p ps => exact List.forall_mem_cons.mpr ⟨childInduction h p, childInductionParts h ps⟩

theorem childInductionFields (h : ∀ p, (∀ q ∈ p.children, motive q) → motive p)
    (fields : List (String × Pattern)) : ∀ q ∈ fields.map Prod.snd, motive q := by
  cases fields with
  | nil => exact nofun
  | cons f fields =>
      obtain ⟨name, p⟩ := f
      exact List.forall_mem_cons.mpr ⟨childInduction h p, childInductionFields h fields⟩

end

/-! ## paths -/

/-- The node at the end of a path from the root. -/
def at? (p : Pattern) : List Nat → Option Pattern
  | [] => some p
  | i :: path => p.children[i]?.bind fun q => at? q path

/-- The condition `P` on every node that a path passes through, both ends included. -/
def Along (P : Pattern → Prop) (p : Pattern) (path : List Nat) : Prop :=
  ∀ outer, outer <+: path → ∀ q, p.at? outer = some q → P q

variable {P : Pattern → Prop} {p q : Pattern} {i : Nat} {path : List Nat}

/-- A path goes on from the child that its first step leads to. -/
theorem at?_cons (h : p.children[i]? = some q) : p.at? (i :: path) = q.at? path := by
  rw [at?, h]
  rfl

/-- Nothing but the pattern itself is on the way to it. -/
theorem along_nil : Along P p [] ↔ P p := by
  constructor
  · intro h
    exact h [] (List.prefix_refl []) p rfl
  · intro hp outer houter q hq
    rw [List.prefix_nil.mp houter] at hq
    exact Option.some.inj hq ▸ hp

/-- The way through a child is the pattern and the way from that child on. -/
theorem along_cons (hq : p.children[i]? = some q) :
    Along P p (i :: path) ↔ P p ∧ Along P q path := by
  constructor
  · intro h
    refine ⟨h [] List.nil_prefix p rfl, fun outer houter r hr => ?_⟩
    exact h (i :: outer) (List.cons_prefix_cons.mpr ⟨rfl, houter⟩) r ((at?_cons hq).trans hr)
  · rintro ⟨hp, h⟩ outer houter r hr
    cases outer with
    | nil => exact Option.some.inj hr ▸ hp
    | cons j outer =>
        obtain ⟨rfl, hpath⟩ := List.cons_prefix_cons.mp houter
        exact h outer hpath r ((at?_cons hq).symm.trans hr)

end Pattern

/-! ## where two paths part -/

/-- The longest common beginning of two paths. -/
def commonPrefix : List Nat → List Nat → List Nat
  | i :: path, j :: path' => if i = j then i :: commonPrefix path path' else []
  | _, _ => []

theorem commonPrefix_cons (i : Nat) (path path' : List Nat) :
    commonPrefix (i :: path) (i :: path') = i :: commonPrefix path path' := if_pos rfl

theorem commonPrefix_cons_of_ne {i j : Nat} (h : i ≠ j) (path path' : List Nat) :
    commonPrefix (i :: path) (j :: path') = [] := if_neg h

end Casebook
