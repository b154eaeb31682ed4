import Casebook.Proofs.RecordedKeys

/-!
# Casebook.Proofs.MatchByParts

Matching without selections that are carried along.  The walk of `Pattern.Match` writes on top of
what was recorded before it and never looks at it, so what a pattern captures is put together from
what its parts capture by themselves.

* `Selections.merge_assoc`, `merge_empty`, `empty_merge`, `merge_comm` — merging;
* `Selections.gather` — the captures of all of some parts, merged from left to right;
* `Selections.filledUp`, `get?_filledUp` — captures with the keys they lack;
* `Pattern.matchInto_merge` — selections below those a match starts from stay below its result;
* `ofResult?_matchInto` — a match on top of selections is a match by itself, merged into them;
* `match?_all`, `match?_object`, … — what each pattern captures, an equation for each form;
* `match?_any_eq_filledUp` — a choice captures what its first alternative that matches does, filled
  up with the keys that this one lacks.
-/

namespace Casebook

namespace Selections

variable {s t branch : Selections} {keys keys' : List SelectionKey}

/-! ## merging -/

@[simp] theorem merge_empty (s : Selections) : s.merge ∅ = s := by
  apply ext_get?
  intro k
  rw [get?_merge, get?_empty]
  rfl

@[simp] theorem empty_merge (s : Selections) : (∅ : Selections).merge s = s := by
  apply ext_get?
  intro k
  rw [get?_merge, get?_empty]
  cases s.get? k <;> rfl

theorem map_empty_merge (o : Option Selections) : o.map (∅ : Selections).merge = o := by
  cases o with
  | none => rfl
  | some s => rw [Option.map_some, empty_merge]

/-- To merge is associative, since under each key the last selections that hold it decide. -/
theorem merge_assoc (s t u : Selections) : (s.merge t).merge u = s.merge (t.merge u) := by
  apply ext_get?
  intro k
  rw [get?_merge, get?_merge, get?_merge, get?_merge]
  cases u.get? k <;> rfl

/-- To record over merged selections is to record over the later ones. -/
theorem record_merge (s t : Selections) (key : SelectionKey) (c : Capture) :
    (s.merge t).record key c = s.merge (t.record key c) := by
  apply ext_get?
  intro k
  rw [get?_record, get?_merge, get?_merge, get?_record]
  split <;> rfl

/-- Selections without a common key may be merged in either order. -/
theorem merge_comm (h : ∀ k, s.contains k = true → t.contains k = false) :
    s.merge t = t.merge s := by
  apply ext_get?
  intro k
  rw [get?_merge, get?_merge]
  cases hs : s.get? k with
  | none => cases t.get? k <;> rfl
  | some c =>
      have hk : t.contains k = false := h k (by rw [contains, hs]; rfl)
      rw [get?_eq_none_iff.mpr (Bool.eq_false_iff.mp hk)]
      rfl

/-- What is recorded key by key goes on top of what is below. -/
theorem foldl_merge {out : Selections} {f : Selections → SelectionKey → Selections}
    (hf : ∀ s key, f (out.merge s) key = out.merge (f s key)) (keys : List SelectionKey)
    (s : Selections) : keys.foldl f (out.merge s) = out.merge (keys.foldl f s) := by
  induction keys generalizing s with
  | nil => rfl
  | cons key keys ih => rw [List.foldl_cons, hf, ih, List.foldl_cons]

/-- Absent captures go over the later of merged selections. -/
theorem recordUndefined_merge (out s : Selections) (keys : List SelectionKey) :
    (out.merge s).recordUndefined keys = out.merge (s.recordUndefined keys) :=
  foldl_merge (fun s key => record_merge out s key .undefined) keys s

/-- Columns go over the later of merged selections. -/
theorem recordColumns_merge (out s : Selections) (rows : List Selections)
    (keys : List SelectionKey) :
    (out.merge s).recordColumns rows keys = out.merge (s.recordColumns rows keys) :=
  foldl_merge (fun s key => record_merge out s key _) keys s

/-- What a branch lacks is recorded over the later of merged selections. -/
theorem recordMissing_merge (out s branch : Selections) (keys : List SelectionKey) :
    (out.merge s).recordMissing branch keys = out.merge (s.recordMissing branch keys) := by
  refine foldl_merge (fun s key => ?_) keys s
  split
  case isTrue => rfl
  case isFalse => exact record_merge out s key .undefined

/-! ## the captures of some parts -/

/-- The captures of all of some parts, later ones over earlier ones; none if one part has
none. -/
def gather : List (Option Selections) → Option Selections
  | [] => some ∅
  | o :: os => o.bind fun s => (gather os).map s.merge

/-- Parts are gathered if none of them is missing. -/
theorem isSome_gather (os : List (Option Selections)) :
    (gather os).isSome = os.all Option.isSome := by
  induction os with
  | nil => rfl
  | cons o os ih =>
      rw [gather, List.all_cons, ← ih]
      cases o with
      | none => rfl
      | some s => rw [Option.bind_some, Option.isSome_map, Option.isSome_some, Bool.true_and]

/-- The captures of one more part, on top of what was there before. -/
theorem map_merge_gather_cons (out : Selections) (o : Option Selections)
    (os : List (Option Selections)) :
    (gather (o :: os)).map out.merge =
      (o.map out.merge).bind fun s => (gather os).map s.merge := by
  rw [gather]
  cases o with
  | none => rfl
  | some s =>
      rw [Option.bind_some, Option.map_some, Option.bind_some, Option.map_map]
      congr 1
      funext t
      exact (merge_assoc out s t).symm

/-- The captures of two lists of parts are those of the first with those of the second over them. -/
theorem gather_append (os os' : List (Option Selections)) :
    gather (os ++ os') = (gather os).bind fun s => (gather os').map s.merge := by
  induction os with
  | nil => exact (map_empty_merge (gather os')).symm
  | cons o os ih =>
      rw [List.cons_append, gather, gather, ih]
      cases o with
      | none => rfl
      | some s =>
          cases gather os with
          | none => rfl
          | some t =>
              simp only [Option.bind_some, Option.map_some, Option.map_map]
              congr 1
              funext u
              exact (merge_assoc s t u).symm

theorem gather_singleton (o : Option Selections) : gather [o] = o := by
  cases o with
  | none => rfl
  | some s => simp only [gather, Option.bind_some, Option.map_some, merge_empty]

/-! ## captures filled up -/

/-- The captures of one alternative, and `undefined` under those of some keys that it lacks. -/
def filledUp (branch : Selections) (keys : List SelectionKey) : Selections :=
  ((∅ : Selections).recordMissing branch keys).merge branch

/-- A key of the branch keeps its capture; of the other keys, those asked for get `undefined`. -/
theorem get?_filledUp (branch : Selections) (keys : List SelectionKey) (k : SelectionKey) :
    (branch.filledUp keys).get? k =
      if branch.contains k = true then branch.get? k
      else if k ∈ keys then some .undefined else none := by
  rw [filledUp, get?_merge, get?_recordMissing, get?_empty, contains]
  cases branch.get? k <;> simp

/-- The keys that are held are those of the branch and those asked for. -/
theorem contains_filledUp {k : SelectionKey} :
    (branch.filledUp keys).contains k = true ↔ branch.contains k = true ∨ k ∈ keys := by
  rw [contains, get?_filledUp]
  by_cases hk : branch.contains k = true
  · rw [if_pos hk]
    exact ⟨.inl, fun _ => hk⟩
  · rw [if_neg hk, or_iff_right hk]
    by_cases hmem : k ∈ keys <;> simp [hmem]

/-- It does not matter in which order keys are filled up, or how often. -/
theorem filledUp_congr (h : ∀ k, k ∈ keys ↔ k ∈ keys') (branch : Selections) :
    branch.filledUp keys = branch.filledUp keys' := by
  apply ext_get?
  intro k
  rw [get?_filledUp, get?_filledUp]
  simp only [h]

/-- Captures that have all of the keys lack none. -/
theorem filledUp_eq_self (h : ∀ k ∈ keys, branch.contains k = true) :
    branch.filledUp keys = branch := by
  apply ext_get?
  intro k
  rw [get?_filledUp]
  by_cases hk : branch.contains k = true
  · rw [if_pos hk]
  · rw [if_neg hk, if_neg fun hmem => hk (h k hmem), get?_eq_none_iff.mpr hk]

/-- What was filled up with some keys is filled up with more of them. -/
theorem filledUp_filledUp (h : ∀ k ∈ keys, k ∈ keys') (branch : Selections) :
    (branch.filledUp keys).filledUp keys' = branch.filledUp keys' := by
  apply ext_get?
  intro k
  rw [get?_filledUp, get?_filledUp branch keys']
  simp only [contains_filledUp, get?_filledUp]
  by_cases hk : branch.contains k = true
  · simp [hk]
  · by_cases hmem : k ∈ keys
    · simp [hk, hmem, h k hmem]
    · simp [hk, hmem]

end Selections

namespace Pattern

open Selections

/-! ## on top of other selections -/

/- No rule reads the selections it is given, it only records into them.  So what lies below them
can be merged in before or after, even where the match fails half-way. -/

mutual

/-- To match on top of merged selections is to match on top of the later ones and merge then: what a
pattern records does not depend on what was recorded before. -/
theorem matchInto_merge (p : Pattern) (v : Value) (out s : Selections) :
    matchInto p v (out.merge s) = (matchInto p v s).map id out.merge := by
  cases p with
  | literal _ | wildcard | kind _ | when _ | not _ => rfl
  | select key inner =>
      cases inner with
      | none =>
          rw [matchInto, record_merge]
          rfl
      | some p =>
          rw [matchInto, matchInto, matchInto_merge p v out s]
          obtain ⟨_ | _, t⟩ := matchInto p v s
          · rfl
          · show (true, (out.merge t).record key (.part v)) = _
            rw [record_merge]
            rfl
  | object fields =>
      rw [matchInto, matchInto]
      cases v.props? with
      | none => rfl
      | some props => exact matchFields_merge fields props out s
  | tuple ps =>
      rw [matchInto, matchInto]
      cases v.items? with
      | none => rfl
      | some items =>
          by_cases hl : items.length = ps.length
          · simp only [if_pos hl]
            exact matchItems_merge ps items out s
          · simp only [if_neg hl]
            rfl
  | each p =>
      rw [matchInto, matchInto]
      cases v.items? with
      | none => rfl
      | some items =>
          cases hrows : items.mapM fun item => ofResult? (matchInto p item ∅) with
          | none =>
              simp only [hrows]
              rfl
          | some rows =>
              simp only [hrows, recordColumns_merge]
              rfl
  | all ps => exact matchAll_merge ps v out s
  | any ps =>
      rw [matchInto, matchInto]
      cases matchAny ps v with
      | none => rfl
      | some branch =>
          simp only [recordMissing_merge, merge_assoc]
          rfl
  | optional p =>
      rw [matchInto, matchInto]
      by_cases hv : v.isUndefined = true
      · rw [if_pos hv, if_pos hv, recordUndefined_merge]
        rfl
      · rw [if_neg hv, if_neg hv]
        exact matchInto_merge p v out s

theorem matchFields_merge (fields : List (String × Pattern)) (props : Props Value)
    (out s : Selections) :
    matchFields fields props (out.merge s) = (matchFields fields props s).map id out.merge := by
  cases fields with
  | nil => rfl
  | cons f fields =>
      obtain ⟨name, p⟩ := f
      rw [matchFields, matchFields]
      cases props.lookup name with
      | some v =>
          simp only [matchInto_merge p v out s]
          obtain ⟨_ | _, t⟩ := matchInto p v s
          · rfl
          · exact matchFields_merge fields props out t
      | none =>
          by_cases ho : p.isOptional = true
          · simp only [if_pos ho, matchInto_merge p .undefined out s]
            obtain ⟨_ | _, t⟩ := matchInto p .undefined s
            · rfl
            · exact matchFields_merge fields props out t
          · simp only [if_neg ho]
            rfl

theorem matchItems_merge (ps : List Pattern) (vs : List Value) (out s : Selections) :
    matchItems ps vs (out.merge s) = (matchItems ps vs s).map id out.merge := by
  cases ps with
  | nil => rfl
  | cons p ps =>
      cases vs with
      | nil => rfl
      | cons v vs =>
          rw [matchItems, matchItems, matchInto_merge p v out s]
          obtain ⟨_ | _, t⟩ := matchInto p v s
          · rfl
          · exact matchItems_merge ps vs out t

theorem matchAll_merge (ps : List Pattern) (v : Value) (out s : Selections) :
    matchAll ps v (out.merge s) = (matchAll ps v s).map id out.merge := by
  cases ps with
  | nil => rfl
  | cons p ps =>
      rw [matchAll, matchAll, matchInto_merge p v out s]
      obtain ⟨_ | _, t⟩ := matchInto p v s
      · rfl
      · exact matchAll_merge ps v out t

end

/-- A match on top of selections is a match by itself, merged into them. -/
theorem matchInto_eq (p : Pattern) (v : Value) (out : Selections) :
    matchInto p v out = (matchInto p v ∅).map id out.merge := by
  rw [← matchInto_merge, merge_empty]

/-- What a pattern captures on top of other selections is what it captures alone, merged over
them. -/
theorem ofResult?_matchInto (p : Pattern) (v : Value) (out : Selections) :
    ofResult? (matchInto p v out) = (p.match? v).map out.merge := by
  rw [matchInto_eq, match?]
  obtain ⟨_ | _, s⟩ := matchInto p v ∅ <;> rfl

/-- A pattern matches a value exactly if it captures something of it, be it without a key. -/
theorem matches_eq (p : Pattern) (v : Value) : p.matches v = (p.match? v).isSome := by
  rw [«matches», match?]
  obtain ⟨_ | _, s⟩ := matchInto p v ∅ <;> rfl

/-! ## lists of parts -/

/-- What the pattern of a field captures of the properties of an object. -/
def matchField? (f : String × Pattern) (props : Props Value) : Option Selections :=
  match props.lookup f.1 with
  | some v => f.2.match? v
  | none => if f.2.isOptional then f.2.match? .undefined else none

/-- An object shape gathers what its fields capture. -/
theorem ofResult?_matchFields (fields : List (String × Pattern)) (props : Props Value)
    (out : Selections) :
    ofResult? (matchFields fields props out) =
      (gather (fields.map fun f => matchField? f props)).map out.merge := by
  induction fields generalizing out with
  | nil =>
      rw [matchFields, List.map_nil, gather, Option.map_some, merge_empty]
      rfl
  | cons f fields ih =>
      obtain ⟨name, p⟩ := f
      rw [List.map_cons, map_merge_gather_cons, matchField?, matchFields]
      cases props.lookup name with
      | some v =>
          simp only [← ofResult?_matchInto]
          obtain ⟨_ | _, s⟩ := matchInto p v out
          · rfl
          · exact ih s
      | none =>
          by_cases ho : p.isOptional = true
          · simp only [if_pos ho, ← ofResult?_matchInto]
            obtain ⟨_ | _, s⟩ := matchInto p .undefined out
            · rfl
            · exact ih s
          · simp only [if_neg ho]
            rfl

/-- A tuple gathers what its parts capture of the items in the same places. -/
theorem ofResult?_matchItems (ps : List Pattern) (vs : List Value) (out : Selections) :
    ofResult? (matchItems ps vs out) =
      (gather (List.zipWith match? ps vs)).map out.merge := by
  induction ps generalizing vs out with
  | nil =>
      rw [matchItems.eq_def, List.zipWith_nil_left, gather, Option.map_some, merge_empty]
      rfl
  | cons p ps ih =>
      cases vs with
      | nil =>
          rw [List.zipWith_nil_right, gather, Option.map_some, merge_empty]
          rfl
      | cons v vs =>
          rw [matchItems, List.zipWith_cons_cons, map_merge_gather_cons, ← ofResult?_matchInto]
          obtain ⟨_ | _, s⟩ := matchInto p v out
          · rfl
          · exact ih vs s

/-- A conjunction gathers what its parts capture of the whole value. -/
theorem ofResult?_matchAll (ps : List Pattern) (v : Value) (out : Selections) :
    ofResult? (matchAll ps v out) =
      (gather (ps.map fun p => p.match? v)).map out.merge := by
  induction ps generalizing out with
  | nil =>
      rw [matchAll, List.map_nil, gather, Option.map_some, merge_empty]
      rfl
  | cons p ps ih =>
      rw [matchAll, List.map_cons, map_merge_gather_cons, ← ofResult?_matchInto]
      obtain ⟨_ | _, s⟩ := matchInto p v out
      · rfl
      · exact ih s

/-- Alternatives are tried in order, each by itself. -/
theorem matchAny_eq_findSome? (ps : List Pattern) (v : Value) :
    matchAny ps v = ps.findSome? fun p => p.match? v := by
  induction ps with
  | nil => rfl
  | cons p ps ih =>
      rw [matchAny, List.findSome?_cons, match?]
      cases ofResult? (matchInto p v ∅) with
      | none => exact ih
      | some branch => rfl

/-! ## what each form captures -/

theorem match?_select_none (key : SelectionKey) (v : Value) :
    (select key none).match? v = some ((∅ : Selections).record key (.part v)) := rfl

theorem match?_select_some (key : SelectionKey) (p : Pattern) (v : Value) :
    (select key (some p)).match? v = (p.match? v).map fun s => s.record key (.part v) := by
  rw [match?, matchInto, match?]
  obtain ⟨_ | _, s⟩ := matchInto p v ∅ <;> rfl

/-- An object shape captures what its fields do, of a value that has properties. -/
theorem match?_object (fields : List (String × Pattern)) (v : Value) :
    (object fields).match? v = v.props?.bind fun props =>
      gather (fields.map fun f => matchField? f props) := by
  rw [match?, matchInto]
  cases v.props? with
  | none => rfl
  | some props =>
      simp only [ofResult?_matchFields, Option.bind_some, map_empty_merge]

/-- A tuple captures what its parts do, of an array with as many items. -/
theorem match?_tuple (ps : List Pattern) (v : Value) :
    (tuple ps).match? v = v.items?.bind fun items =>
      if items.length = ps.length then gather (List.zipWith match? ps items) else none := by
  rw [match?, matchInto]
  cases v.items? with
  | none => rfl
  | some items =>
      by_cases hl : items.length = ps.length
      · simp only [if_pos hl, ofResult?_matchItems, Option.bind_some, map_empty_merge]
      · simp only [if_neg hl, Option.bind_some]
        rfl

/-- A repeated pattern captures a column under each of its keys, if every item matches. -/
theorem match?_each (p : Pattern) (v : Value) :
    (each p).match? v = v.items?.bind fun items =>
      (items.mapM p.match?).map fun rows => (∅ : Selections).recordColumns rows p.keys := by
  rw [match?, matchInto]
  cases v.items? with
  | none => rfl
  | some items =>
      have hrows : (items.mapM fun item => ofResult? (matchInto p item ∅)) =
        items.mapM p.match? := rfl
      simp only [hrows, Option.bind_some]
      cases items.mapM p.match? <;> rfl

/-- A negation captures nothing, whatever stands in it. -/
theorem match?_not (p : Pattern) (v : Value) :
    (not p).match? v = if p.matches v then none else some ∅ := by
  rw [match?, matchInto, «matches»]
  cases (matchInto p v ∅).1 <;> rfl

theorem match?_all (ps : List Pattern) (v : Value) :
    (all ps).match? v = gather (ps.map fun p => p.match? v) := by
  rw [match?, matchInto, ofResult?_matchAll, map_empty_merge]

theorem match?_any (ps : List Pattern) (v : Value) :
    (any ps).match? v = (ps.findSome? fun p => p.match? v).map fun branch =>
      ((∅ : Selections).recordMissing branch (ps.flatMap keys)).merge branch := by
  rw [match?, matchInto, matchAny_eq_findSome?]
  cases ps.findSome? fun p => p.match? v <;> rfl

/-- The keys of a choice are those of all its alternatives. -/
theorem mem_keys_any {ps : List Pattern} {k : SelectionKey} :
    k ∈ (any ps).keys ↔ k ∈ ps.flatMap keys := mem_collectParts_iff

/-- A choice captures what its first matching alternative does, and `undefined` under the keys that
this one lacks. -/
theorem match?_any_eq_filledUp (ps : List Pattern) (v : Value) :
    (any ps).match? v = (ps.findSome? fun p => p.match? v).map fun branch =>
      branch.filledUp (any ps).keys := by
  simp only [filledUp_congr (fun _ => mem_keys_any)]
  exact match?_any ps v

/-- An optional pattern captures `undefined` under all its keys where there is no value. -/
theorem match?_optional (p : Pattern) (v : Value) :
    (optional p).match? v =
      if v.isUndefined then some ((∅ : Selections).recordUndefined p.keys) else p.match? v := by
  rw [match?, matchInto]
  cases v.isUndefined <;> rfl

/-! ## which values each form matches -/

/-- Whether the pattern of a field matches the properties of an object. -/
def matchesField (f : String × Pattern) (props : Props Value) : Bool :=
  match props.lookup f.1 with
  | some v => f.2.matches v
  | none => f.2.isOptional && f.2.matches .undefined

/-- The pattern of a field matches exactly if it captures something, be it without a key. -/
theorem isSome_matchField? (f : String × Pattern) (props : Props Value) :
    (matchField? f props).isSome = matchesField f props := by
  rw [matchField?, matchesField]
  cases props.lookup f.1 with
  | some v => exact (matches_eq f.2 v).symm
  | none =>
      rw [matches_eq]
      cases f.2.isOptional <;> rfl

theorem matches_select_some (key : SelectionKey) (p : Pattern) (v : Value) :
    (select key (some p)).matches v = p.matches v := by
  rw [matches_eq, match?_select_some, Option.isSome_map, matches_eq]

theorem matches_object (fields : List (String × Pattern)) (v : Value) :
    (object fields).matches v =
      v.props?.any fun props => fields.all fun f => matchesField f props := by
  rw [matches_eq, match?_object]
  cases v.props? with
  | none => rfl
  | some props =>
      simp only [Option.bind_some, Option.any_some, isSome_gather, List.all_map, Function.comp_def,
        isSome_matchField?]

/-- Item by item, there are captures where the item matches. -/
theorem all_isSome_zipWith (ps : List Pattern) (vs : List Value) :
    (List.zipWith match? ps vs).all Option.isSome = (List.zipWith «matches» ps vs).all id := by
  have hmap : (List.zipWith match? ps vs).map Option.isSome = List.zipWith «matches» ps vs := by
    rw [List.map_zipWith]
    simp only [← matches_eq]
  rw [← hmap, List.all_map]
  rfl

/-- A tuple matches an array with as many items, each of which its part matches. -/
theorem matches_tuple (ps : List Pattern) (v : Value) :
    (tuple ps).matches v = v.items?.any fun items =>
      items.length == ps.length && (List.zipWith «matches» ps items).all id := by
  rw [matches_eq, match?_tuple]
  cases v.items? with
  | none => rfl
  | some items =>
      simp only [Option.bind_some, Option.any_some]
      by_cases hl : items.length = ps.length
      · rw [if_pos hl, isSome_gather, beq_iff_eq.mpr hl, Bool.true_and, all_isSome_zipWith]
      · rw [if_neg hl, beq_eq_false_iff_ne.mpr hl, Bool.false_and]
        rfl

/-- A list is mapped through if every element is. -/
theorem isSome_mapM (f : Value → Option Selections) (vs : List Value) :
    (vs.mapM f).isSome = vs.all fun v => (f v).isSome := by
  induction vs with
  | nil => rfl
  | cons v vs ih =>
      rw [List.mapM_cons, List.all_cons, ← ih]
      cases f v with
      | none => rfl
      | some s => cases vs.mapM f <;> rfl

/-- A repeated pattern matches every array whose items it matches, also the empty one. -/
theorem matches_each (p : Pattern) (v : Value) :
    (each p).matches v = v.items?.any fun items => items.all p.matches := by
  rw [matches_eq, match?_each]
  cases v.items? with
  | none => rfl
  | some items =>
      simp only [Option.bind_some, Option.any_some, Option.isSome_map, isSome_mapM, ← matches_eq]

theorem matches_not (p : Pattern) (v : Value) : (not p).matches v = !p.matches v := by
  rw [matches_eq, match?_not]
  cases p.matches v <;> rfl

theorem matches_all (ps : List Pattern) (v : Value) :
    (all ps).matches v = ps.all fun p => p.matches v := by
  simp only [matches_eq, match?_all, isSome_gather, List.all_map, Function.comp_def]

theorem matches_any (ps : List Pattern) (v : Value) :
    (any ps).matches v = ps.any fun p => p.matches v := by
  simp only [matches_eq, match?_any, Option.isSome_map, List.isSome_findSome?]

theorem matches_optional (p : Pattern) (v : Value) :
    (optional p).matches v = (v.isUndefined || p.matches v) := by
  rw [matches_eq, match?_optional, matches_eq]
  cases v.isUndefined <;> rfl

end Pattern

end Casebook
