import Casebook.Pattern.Match
import Mathlib.Data.List.Forall2

/-!
# Casebook.Proofs.RecordedKeys

Which keys a match records.  The walk that collects the keys of a pattern and the walk that
matches it are two recursions over the same syntax; they agree on every success.

* `contains_matchInto` — after a success the selections hold what they held before and the
  keys of the pattern, and nothing else;
* `contains_match?` — so a match by itself records the keys of its pattern;
* `get?_of_matchInto_each` — the column of a key lists what the elements captured under it, so
  no place of it has to be filled up;
* `match?_records_keys` — both, for every pattern.
-/

namespace Casebook

namespace Selections

/-- Only a successful match has selections to show, and shows those it recorded. -/
theorem eq_of_ofResult? {result : Bool × Selections} {s : Selections}
    (h : ofResult? result = some s) : result = (true, s) := by
  obtain ⟨_ | _, t⟩ := result
  · simp [ofResult?] at h
  · simpa [ofResult?] using h

/-- Recording under each of some keys sets exactly these keys. -/
theorem get?_foldl_record {keys : List SelectionKey} {f : SelectionKey → Capture}
    {s : Selections} {k : SelectionKey} :
    (keys.foldl (fun s key => s.record key (f key)) s).get? k =
      if k ∈ keys then some (f k) else s.get? k := by
  induction keys generalizing s with
  | nil => simp
  | cons key keys ih =>
      rw [List.foldl_cons, ih, get?_record]
      by_cases hk : k ∈ keys
      · rw [if_pos hk, if_pos (List.mem_cons_of_mem key hk)]
      · rw [if_neg hk]
        by_cases he : key = k
        · rw [if_pos he, if_pos (he ▸ List.mem_cons_self), he]
        · have hk' : k ∉ key :: keys := fun h => (List.mem_cons.mp h).elim (Ne.symm he) hk
          rw [if_neg he, if_neg hk']

/-- After a list of keys is recorded, they are held, and all that was held before. -/
theorem contains_foldl_record {keys : List SelectionKey} {f : SelectionKey → Capture}
    {s : Selections} {k : SelectionKey} :
    (keys.foldl (fun s key => s.record key (f key)) s).contains k = true ↔
      k ∈ keys ∨ s.contains k = true := by
  unfold contains
  rw [get?_foldl_record]
  by_cases hk : k ∈ keys
  · simp [hk]
  · simp [hk]

/-- A key that the branch lacks gets `undefined`, and others keep what they had. -/
theorem get?_recordMissing {keys : List SelectionKey} {s branch : Selections}
    {k : SelectionKey} :
    (s.recordMissing branch keys).get? k =
      if k ∈ keys ∧ branch.contains k = false then some .undefined else s.get? k := by
  unfold recordMissing
  induction keys generalizing s with
  | nil => simp
  | cons key keys ih =>
      rw [List.foldl_cons, ih]
      simp only [List.mem_cons]
      by_cases h : branch.contains key = true
      · rw [if_pos h]
        grind
      · rw [if_neg h, get?_record]
        grind

/-- The keys that the branch lacks are held besides those that were. -/
theorem contains_recordMissing {keys : List SelectionKey} {s branch : Selections}
    {k : SelectionKey} :
    (s.recordMissing branch keys).contains k = true ↔
      (k ∈ keys ∧ branch.contains k = false) ∨ s.contains k = true := by
  rw [contains, get?_recordMissing]
  by_cases h : k ∈ keys ∧ branch.contains k = false
  · simp [h]
  · rw [if_neg h, or_iff_right h]
    rfl

end Selections

namespace Pattern

open Selections

mutual

/-- A successful match adds the keys of the pattern, all of them and no other. -/
theorem contains_matchInto (p : Pattern) (v : Value) (out s : Selections)
    (h : matchInto p v out = (true, s)) (k : SelectionKey) :
    s.contains k = true ↔ k ∈ p.keys ∨ out.contains k = true := by
  cases p with
  | literal _ | kind _ | when _ | not _ =>
      simp only [matchInto, Prod.mk.injEq] at h
      simp [keys, collect, h.2]
  | wildcard =>
      simp only [matchInto, Prod.mk.injEq] at h
      simp [keys, collect, h.2]
  | select key inner =>
      cases inner with
      | none =>
          simp only [matchInto, Prod.mk.injEq, true_and] at h
          subst h
          simp [keys, collect, addKey, contains_record]
      | some p =>
          simp only [matchInto] at h
          split at h
          case h_1 o ho =>
              obtain rfl := (Prod.mk.inj h).2
              rw [contains_record, Bool.or_eq_true, contains_matchInto p v out _ ho k,
                mem_keys_select, decide_eq_true_eq, or_assoc]
          case h_2 => simp at h
  | object fields =>
      simp only [matchInto] at h
      split at h
      case h_1 props _ => exact contains_matchFields fields props out s h k
      case h_2 => simp at h
  | tuple ps =>
      simp only [matchInto] at h
      split at h
      case h_1 items _ =>
          split at h
          case isTrue hl => exact contains_matchItems ps items out s hl h k
          case isFalse => simp at h
      case h_2 => simp at h
  | each p =>
      simp only [matchInto] at h
      split at h
      case h_1 items _ =>
          split at h
          case h_1 rows _ =>
              obtain rfl := (Prod.mk.inj h).2
              exact contains_foldl_record
          case h_2 => simp at h
      case h_2 => simp at h
  | all ps => exact contains_matchAll ps v out s h k
  | any ps =>
      simp only [matchInto] at h
      split at h
      case h_1 branch hb =>
          obtain rfl := (Prod.mk.inj h).2
          have hk := mem_keys_of_matchAny ps v branch hb k
          rw [contains_merge, Bool.or_eq_true, contains_recordMissing]
          show _ ↔ k ∈ collectParts [] ps ∨ _
          rw [mem_collectParts_iff]
          grind
      case h_2 => simp at h
  | optional p =>
      simp only [matchInto] at h
      split at h
      case isTrue =>
          obtain rfl := (Prod.mk.inj h).2
          exact contains_foldl_record
      case isFalse => exact contains_matchInto p v out s h k

/-- Fields that match add the keys of their patterns. -/
theorem contains_matchFields (fields : List (String × Pattern)) (props : Props Value)
    (out s : Selections) (h : matchFields fields props out = (true, s)) (k : SelectionKey) :
    s.contains k = true ↔ k ∈ collectFields [] fields ∨ out.contains k = true := by
  cases fields with
  | nil =>
      simp only [matchFields, Prod.mk.injEq] at h
      simp [collectFields, h.2]
  | cons f fields =>
      obtain ⟨name, p⟩ := f
      simp only [matchFields] at h
      split at h
      case h_1 o ho =>
          have hp : o.contains k = true ↔ k ∈ p.keys ∨ out.contains k = true := by
            split at ho
            · exact contains_matchInto p _ out o ho k
            · split at ho
              · exact contains_matchInto p _ out o ho k
              · simp at ho
          rw [contains_matchFields fields props o s h k, hp, mem_collectFields_cons]
          rw [or_left_comm, or_assoc]
      case h_2 => simp at h

/-- Parts that match their items add their keys, if there are as many items as parts. -/
theorem contains_matchItems (ps : List Pattern) (vs : List Value) (out s : Selections)
    (hl : vs.length = ps.length) (h : matchItems ps vs out = (true, s)) (k : SelectionKey) :
    s.contains k = true ↔ k ∈ collectParts [] ps ∨ out.contains k = true := by
  cases ps with
  | nil =>
      cases vs <;> simp only [matchItems, Prod.mk.injEq] at h <;> simp [collectParts, h.2]
  | cons p ps =>
      cases vs with
      | nil => simp at hl
      | cons v vs =>
          simp only [matchItems] at h
          split at h
          case h_1 o ho =>
              rw [contains_matchItems ps vs o s (Nat.succ.inj hl) h k,
                contains_matchInto p v out o ho k, mem_collectParts_cons]
              rw [or_left_comm, or_assoc]
          case h_2 => simp at h

/-- Parts that all match add their keys. -/
theorem contains_matchAll (ps : List Pattern) (v : Value) (out s : Selections)
    (h : matchAll ps v out = (true, s)) (k : SelectionKey) :
    s.contains k = true ↔ k ∈ collectParts [] ps ∨ out.contains k = true := by
  cases ps with
  | nil =>
      simp only [matchAll, Prod.mk.injEq] at h
      simp [collectParts, h.2]
  | cons p ps =>
      simp only [matchAll] at h
      split at h
      case h_1 o ho =>
          rw [contains_matchAll ps v o s h k, contains_matchInto p v out o ho k,
            mem_collectParts_cons]
          rw [or_left_comm, or_assoc]
      case h_2 => simp at h

/-- What an alternative captures is under a key of some alternative. -/
theorem mem_keys_of_matchAny (ps : List Pattern) (v : Value) (branch : Selections)
    (h : matchAny ps v = some branch) (k : SelectionKey) (hk : branch.contains k = true) :
    k ∈ ps.flatMap keys := by
  cases ps with
  | nil => simp [matchAny] at h
  | cons p ps =>
      rw [List.flatMap_cons, List.mem_append]
      simp only [matchAny] at h
      split at h
      case h_1 o ho =>
          obtain rfl := Option.some.inj h
          rw [contains_matchInto p v ∅ _ (eq_of_ofResult? ho) k] at hk
          simpa using Or.inl (b := k ∈ ps.flatMap keys) (hk.resolve_right (by simp))
      case h_2 => exact .inr (mem_keys_of_matchAny ps v branch h k hk)

end

/-! ## a match by itself -/

/-- By itself, a pattern captures under its keys and no other. -/
theorem contains_match? {p : Pattern} {v : Value} {s : Selections} (h : p.match? v = some s)
    (k : SelectionKey) : s.contains k = true ↔ k ∈ p.keys := by
  rw [contains_matchInto p v ∅ s (eq_of_ofResult? h) k, contains_empty]
  simp

/-! ## columns -/

/-- An element that matches fills its cell in every column with a capture of its own. -/
theorem get?_eq_cell {p : Pattern} {v : Value} {row : Selections} (h : p.match? v = some row)
    {k : SelectionKey} (hk : k ∈ p.keys) : row.get? k = some (row.cell k) := by
  have hsome : (row.get? k).isSome = true := (contains_match? h k).mpr hk
  obtain ⟨c, hc⟩ := Option.isSome_iff_exists.mp hsome
  rw [cell, hc, Option.getD_some]

/-- Elements that all match give one row each. -/
theorem forall₂_of_mapM {p : Pattern} {items : List Value} {rows : List Selections}
    (h : items.mapM p.match? = some rows) :
    List.Forall₂ (fun item row => p.match? item = some row) items rows := by
  induction items generalizing rows with
  | nil =>
      obtain rfl : [] = rows := Option.some.inj h
      exact .nil
  | cons item items ih =>
      rw [List.mapM_cons] at h
      obtain ⟨row, hrow, h⟩ := Option.bind_eq_some_iff.mp h
      obtain ⟨rows', hrows, h⟩ := Option.bind_eq_some_iff.mp h
      obtain rfl : row :: rows' = rows := Option.some.inj h
      exact .cons hrow (ih hrows)

/-- No row of a repeated match lacks a key of its pattern, so a column takes every cell from the
rows themselves. -/
theorem mapM_get?_eq_cells {p : Pattern} {k : SelectionKey} (hk : k ∈ p.keys)
    {items : List Value} {rows : List Selections} (h : items.mapM p.match? = some rows) :
    (items.mapM fun item => (p.match? item).bind fun row => row.get? k) =
      some (rows.map fun row => row.cell k) := by
  have hrows := forall₂_of_mapM h
  clear h
  induction hrows with
  | nil => rfl
  | cons hrow _ ih =>
      rw [List.mapM_cons, hrow, Option.bind_some, get?_eq_cell hrow hk, ih]
      rfl

/-- Under a key of the repeated pattern stands a column with the captures of all items. -/
theorem get?_of_matchInto_each {p : Pattern} {v : Value} {items : List Value}
    {out s : Selections} (hv : v.items? = some items)
    (h : matchInto (each p) v out = (true, s)) {k : SelectionKey} (hk : k ∈ p.keys) :
    ∃ entries,
      (items.mapM fun item => (p.match? item).bind fun row => row.get? k) = some entries ∧
      s.get? k = some (.column entries) := by
  simp only [matchInto, hv] at h
  split at h
  case h_1 rows hrows =>
      obtain rfl := (Prod.mk.inj h).2
      refine ⟨_, mapM_get?_eq_cells hk hrows, ?_⟩
      rw [recordColumns, get?_foldl_record, if_pos hk]
  case h_2 => simp at h

/-- **A match records the keys of its pattern**, all of them and no others.  The keys are
listed once each, and whatever the selections were before, the column that an array match
records under one of them is made of captures of the elements alone: every element has one. -/
theorem match?_records_keys (p : Pattern) :
    (∀ v s, p.match? v = some s → ∀ k, s.contains k = true ↔ k ∈ p.keys) ∧
    p.keys.Nodup ∧
    ∀ v items out s, v.items? = some items → matchInto (each p) v out = (true, s) →
      ∀ k ∈ p.keys, ∃ entries,
        (items.mapM fun item => (p.match? item).bind fun row => row.get? k) = some entries ∧
        s.get? k = some (.column entries) :=
  ⟨fun _ _ h => contains_match? h, nodup_keys p,
    fun _ _ _ _ hv h _ hk => get?_of_matchInto_each hv h hk⟩

/-- An array of one value, or a value that may be absent, each under a name of its own. -/
def wrappedOrBare : Pattern :=
  any [tuple [select (.named "x") none], optional (select (.named "y") none)]

/-- The branch that loses and the property that is absent still have their keys. -/
theorem match?_records_keys_wrappedOrBare :
    (wrappedOrBare.match? .undefined =
        some (ofList [(.named "x", .undefined), (.named "y", .undefined)]) ∧
      ∀ k, (ofList [(.named "x", .undefined), (.named "y", .undefined)]).contains k = true ↔
        k ∈ wrappedOrBare.keys) ∧
    matchInto (each wrappedOrBare) (.array 0 [.array 1 [.null], .undefined]) ∅ =
        (true, ofList [(.named "x", .column [.part .null, .undefined]),
          (.named "y", .column [.undefined, .undefined])]) ∧
      .named "x" ∈ wrappedOrBare.keys ∧
      ∃ entries, ([.array 1 [.null], .undefined].mapM fun item =>
          (wrappedOrBare.match? item).bind fun row => row.get? (.named "x")) = some entries ∧
        (ofList [(.named "x", .column [.part .null, .undefined]),
          (.named "y", .column [.undefined, .undefined])]).get? (.named "x") =
            some (.column entries) :=
  ⟨⟨rfl, (match?_records_keys wrappedOrBare).1 .undefined _ rfl⟩, rfl, by decide,
    (match?_records_keys wrappedOrBare).2.2 (.array 0 [.array 1 [.null], .undefined]) _ ∅ _
      rfl rfl _ (by decide)⟩

end Pattern

end Casebook
