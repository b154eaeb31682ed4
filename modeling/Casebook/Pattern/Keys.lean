import Casebook.Pattern.Basic

/-!
# Casebook.Pattern.Keys

The selection keys of a pattern: every key under which a match records a capture, in the
order they are first written.  A negation has none, since what it captures is discarded.

* `Pattern.keys` — the keys, none twice (`nodup_keys`);
* `Pattern.mem_collect` — a walk adds the keys of the pattern to those it starts with.
-/

namespace Casebook.Pattern

universe u

/-- `keys` with `key` at the end, unless it is there. -/
def addKey (keys : List SelectionKey) (key : SelectionKey) : List SelectionKey :=
  if key ∈ keys then keys else keys ++ [key]

mutual

/-- `keys` and then the new keys of a pattern.  An outer selection comes before those inside
it, and parts come from left to right. -/
def collect (keys : List SelectionKey) : Pattern → List SelectionKey
  | select key none => addKey keys key
  | select key (some p) => collect (addKey keys key) p
  | object fields => collectFields keys fields
  | tuple ps | all ps | any ps => collectParts keys ps
  | each p | optional p => collect keys p
  | literal _ | wildcard | not _ | kind _ | when _ => keys

def collectFields (keys : List SelectionKey) : List (String × Pattern) → List SelectionKey
  | [] => keys
  | (_, p) :: fields => collectFields (collect keys p) fields

def collectParts (keys : List SelectionKey) : List Pattern → List SelectionKey
  | [] => keys
  | p :: ps => collectParts (collect keys p) ps

end

/-- Every key this pattern may record, in the order they are first written. -/
def keys (p : Pattern) : List SelectionKey := collect [] p

/-! ## what a walk adds -/

theorem mem_addKey {keys : List SelectionKey} {key k : SelectionKey} :
    k ∈ addKey keys key ↔ k ∈ keys ∨ k = key := by
  unfold addKey
  split
  case isTrue h =>
      refine ⟨.inl, fun hk => hk.elim id fun he => he ▸ h⟩
  case isFalse => simp

mutual

/-- What a walk adds to the keys found before does not depend on them. -/
theorem mem_collect (p : Pattern) (keys : List SelectionKey) (k : SelectionKey) :
    k ∈ collect keys p ↔ k ∈ keys ∨ k ∈ collect [] p := by
  cases p with
  | select key inner =>
      cases inner with
      | none => simp [collect, mem_addKey]
      | some p =>
          simp only [collect]
          rw [mem_collect p, mem_collect p (addKey [] key), mem_addKey, mem_addKey]
          simp [or_assoc]
  | object fields => exact mem_collectFields fields keys k
  | tuple ps | all ps | any ps => exact mem_collectParts ps keys k
  | each p | optional p => exact mem_collect p keys k
  | literal _ | wildcard | not _ | kind _ | when _ => simp [collect]

theorem mem_collectFields (fields : List (String × Pattern)) (keys : List SelectionKey)
    (k : SelectionKey) :
    k ∈ collectFields keys fields ↔ k ∈ keys ∨ k ∈ collectFields [] fields := by
  cases fields with
  | nil => simp [collectFields]
  | cons f fields =>
      obtain ⟨name, p⟩ := f
      simp only [collectFields]
      rw [mem_collectFields fields, mem_collectFields fields (collect [] p), mem_collect p]
      exact or_assoc

theorem mem_collectParts (ps : List Pattern) (keys : List SelectionKey) (k : SelectionKey) :
    k ∈ collectParts keys ps ↔ k ∈ keys ∨ k ∈ collectParts [] ps := by
  cases ps with
  | nil => simp [collectParts]
  | cons p ps =>
      simp only [collectParts]
      rw [mem_collectParts ps, mem_collectParts ps (collect [] p), mem_collect p]
      exact or_assoc

end

theorem mem_collectFields_cons {name : String} {p : Pattern}
    {fields : List (String × Pattern)} {k : SelectionKey} :
    k ∈ collectFields [] ((name, p) :: fields) ↔ k ∈ p.keys ∨ k ∈ collectFields [] fields :=
  mem_collectFields fields (collect [] p) k

theorem mem_collectParts_cons {p : Pattern} {ps : List Pattern} {k : SelectionKey} :
    k ∈ collectParts [] (p :: ps) ↔ k ∈ p.keys ∨ k ∈ collectParts [] ps :=
  mem_collectParts ps (collect [] p) k

/-- The keys of some parts are the keys of each. -/
theorem mem_collectParts_iff {ps : List Pattern} {k : SelectionKey} :
    k ∈ collectParts [] ps ↔ k ∈ ps.flatMap keys := by
  induction ps with
  | nil => simp [collectParts]
  | cons p ps ih => rw [mem_collectParts_cons, ih, List.flatMap_cons, List.mem_append]

/-- The keys of some fields are those of their patterns, whatever the names. -/
theorem mem_collectFields_iff {fields : List (String × Pattern)} {k : SelectionKey} :
    k ∈ collectFields [] fields ↔ k ∈ (fields.map Prod.snd).flatMap keys := by
  induction fields with
  | nil => simp [collectFields]
  | cons f fields ih =>
      rw [mem_collectFields_cons, ih, List.map_cons, List.flatMap_cons, List.mem_append]

/-- A selection adds its own key to those inside it. -/
theorem mem_keys_select {key k : SelectionKey} {p : Pattern} :
    k ∈ (select key (some p)).keys ↔ k = key ∨ k ∈ p.keys := by
  show k ∈ collect (addKey [] key) p ↔ _
  rw [mem_collect, mem_addKey]
  simp [keys]

/-! ## no key twice -/

theorem nodup_concat {β : Type u} {bs : List β} (h : bs.Nodup) {b : β} (hb : b ∉ bs) :
    (bs ++ [b]).Nodup := by
  rw [List.nodup_append]
  refine ⟨h, List.nodup_cons.mpr ⟨List.not_mem_nil, List.nodup_nil⟩, fun a ha a' ha' hab => hb ?_⟩
  rwa [← List.mem_singleton.mp ha', ← hab]

/-- A key that is there is not added again. -/
theorem nodup_addKey {keys : List SelectionKey} (h : keys.Nodup) (key : SelectionKey) :
    (addKey keys key).Nodup := by
  unfold addKey
  split
  case isTrue => exact h
  case isFalse hk => exact nodup_concat h hk

mutual

/-- A walk that starts without repetitions ends without them. -/
theorem nodup_collect (p : Pattern) (keys : List SelectionKey) (h : keys.Nodup) :
    (collect keys p).Nodup := by
  cases p with
  | select key inner =>
      have hk := nodup_addKey h key
      cases inner with
      | none => exact hk
      | some p => exact nodup_collect p (addKey keys key) hk
  | object fields => exact nodup_collectFields fields keys h
  | tuple ps | all ps | any ps => exact nodup_collectParts ps keys h
  | each p | optional p => exact nodup_collect p keys h
  | literal _ | wildcard | not _ | kind _ | when _ => exact h

theorem nodup_collectFields (fields : List (String × Pattern)) (keys : List SelectionKey)
    (h : keys.Nodup) : (collectFields keys fields).Nodup := by
  cases fields with
  | nil => exact h
  | cons f fields =>
      obtain ⟨name, p⟩ := f
      exact nodup_collectFields fields (collect keys p) (nodup_collect p keys h)

theorem nodup_collectParts (ps : List Pattern) (keys : List SelectionKey) (h : keys.Nodup) :
    (collectParts keys ps).Nodup := by
  cases ps with
  | nil => exact h
  | cons p ps => exact nodup_collectParts ps (collect keys p) (nodup_collect p keys h)

end

/-- No key is listed twice. -/
theorem nodup_keys (p : Pattern) : p.keys.Nodup := nodup_collect p [] List.nodup_nil

end Casebook.Pattern
