import Casebook.Proofs.MatchByParts
import Casebook.Proofs.Occurrences
import Casebook.Proofs.RecordedKeys

/-!
# Casebook.Proofs.EarlierCaptures

What a match does to the captures that were there before it.  When it fails half-way it has recorded
what it saw until then, but never under a key that is not its own.

* `Pattern.Spares` — whatever comes of a match, the capture under some key is left as it was;
* `spares_of_not_mem_keys` — that holds of every key a pattern does not have, by induction on the
  pattern, with a lemma for each list of parts that is matched in turn;
* `matchInto_of_match?` — a match that succeeds writes what it captures by itself over the rest;
* `matchInto_keeps_earlier` — both, and the forms that record nothing at all when they fail.
-/

namespace Casebook.Pattern

open Selections

/-- Whatever comes of a match, the capture under the key is the one that was there before. -/
def Spares (p : Pattern) (key : SelectionKey) : Prop :=
  ∀ v out, (matchInto p v out).2.get? key = out.get? key

variable {p : Pattern} {ps : List Pattern} {key : SelectionKey}

/-! ## parts matched in turn -/

/- The first part that fails ends the walk.  The captures of the parts before it and those it made
itself are all under other keys. -/

/-- Fields whose patterns all spare a key spare it together. -/
theorem get?_matchFields {fields : List (String × Pattern)}
    (h : ∀ q ∈ fields.map Prod.snd, q.Spares key) (props : Props Value) (out : Selections) :
    (matchFields fields props out).2.get? key = out.get? key := by
  induction fields generalizing out with
  | nil => rfl
  | cons f fields ih =>
      obtain ⟨name, p⟩ := f
      obtain ⟨hp, hfields⟩ := List.forall_mem_cons.mp h
      rw [matchFields]
      cases props.lookup name with
      | some v =>
          have hout : (matchInto p v out).2.get? key = out.get? key := hp v out
          simp only
          generalize matchInto p v out = result at hout ⊢
          obtain ⟨_ | _, t⟩ := result
          · exact hout
          · exact (ih hfields t).trans hout
      | none =>
          by_cases ho : p.isOptional = true
          · have hout : (matchInto p .undefined out).2.get? key = out.get? key := hp .undefined out
            simp only [if_pos ho]
            generalize matchInto p .undefined out = result at hout ⊢
            obtain ⟨_ | _, t⟩ := result
            · exact hout
            · exact (ih hfields t).trans hout
          · simp only [if_neg ho]

/-- Elements whose patterns all spare a key spare it together. -/
theorem get?_matchItems (h : ∀ q ∈ ps, q.Spares key) (vs : List Value) (out : Selections) :
    (matchItems ps vs out).2.get? key = out.get? key := by
  induction ps generalizing vs out with
  | nil => rfl
  | cons p ps ih =>
      obtain ⟨hp, hps⟩ := List.forall_mem_cons.mp h
      cases vs with
      | nil => rfl
      | cons v vs =>
          have hout := hp v out
          rw [matchItems]
          generalize matchInto p v out = result at hout ⊢
          obtain ⟨_ | _, t⟩ := result
          · exact hout
          · exact (ih hps vs t).trans hout

/-- Parts of a conjunction that all spare a key spare it together. -/
theorem get?_matchAll (h : ∀ q ∈ ps, q.Spares key) (v : Value) (out : Selections) :
    (matchAll ps v out).2.get? key = out.get? key := by
  induction ps generalizing out with
  | nil => rfl
  | cons p ps ih =>
      obtain ⟨hp, hps⟩ := List.forall_mem_cons.mp h
      have hout := hp v out
      rw [matchAll]
      generalize matchInto p v out = result at hout ⊢
      obtain ⟨_ | _, t⟩ := result
      · exact hout
      · exact (ih hps t).trans hout

/-! ## captures under other keys -/

/-- Nothing is ever recorded under a key that the pattern does not have. -/
theorem spares_of_not_mem_keys (h : key ∉ p.keys) : p.Spares key := by
  induction p using childInduction with
  | h p ih =>
      intro v out
      -- only what is inside a negation may have keys that the pattern does not have
      have hchildren : p.isNegation = false → ∀ q ∈ p.children, q.Spares key := fun hp q hq =>
        ih q hq fun hk => h ((mem_keys_iff p key).mpr (.inr ⟨hp, q, hq, hk⟩))
      cases p with
      | literal _ | wildcard | kind _ | when _ | not _ => rfl
      | select outer inner =>
          have hne : outer ≠ key := fun he =>
            h ((mem_keys_iff _ key).mpr (.inl ⟨inner, congrArg (select · inner) he⟩))
          cases inner with
          | none => rw [matchInto, get?_record, if_neg hne]
          | some q =>
              have hout := hchildren rfl q List.mem_cons_self v out
              rw [matchInto]
              generalize matchInto q v out = result at hout ⊢
              obtain ⟨_ | _, t⟩ := result
              · exact hout
              · show (t.record outer (.part v)).get? key = _
                rw [get?_record, if_neg hne]
                exact hout
      | object fields =>
          rw [matchInto]
          cases v.props? with
          | none => rfl
          | some props => exact get?_matchFields (hchildren rfl) props out
      | tuple ps =>
          rw [matchInto]
          cases v.items? with
          | none => rfl
          | some items =>
              by_cases hl : items.length = ps.length
              · simp only [if_pos hl]
                exact get?_matchItems (hchildren rfl) items out
              · simp only [if_neg hl]
      | each q =>
          rw [matchInto]
          cases v.items? with
          | none => rfl
          | some items =>
              cases hrows : items.mapM fun item => ofResult? (matchInto q item ∅) with
              | none => simp only [hrows]
              | some rows =>
                  simp only [hrows]
                  exact get?_foldl_record.trans (if_neg h)
      | all ps => exact get?_matchAll (hchildren rfl) v out
      | any ps =>
          rw [matchInto]
          cases hbranch : matchAny ps v with
          | none => rfl
          | some branch =>
              have hkeys : key ∉ ps.flatMap keys := fun hk => h (mem_keys_any.mpr hk)
              have hnone : branch.get? key = none := get?_eq_none_iff.mpr fun hk =>
                hkeys (mem_keys_of_matchAny ps v branch hbranch key hk)
              show ((out.recordMissing branch (ps.flatMap keys)).merge branch).get? key = _
              rw [get?_merge, hnone, get?_recordMissing, if_neg fun hk => hkeys hk.1]
              rfl
      | optional q =>
          rw [matchInto]
          by_cases hv : v.isUndefined = true
          · rw [if_pos hv]
            exact get?_foldl_record.trans (if_neg h)
          · rw [if_neg hv]
            exact hchildren rfl q List.mem_cons_self v out

/-! ## success and failure -/

/-- A match that succeeds writes what it captures by itself over what is there. -/
theorem matchInto_of_match? {v : Value} {s : Selections} (h : p.match? v = some s)
    (out : Selections) : matchInto p v out = (true, out.merge s) := by
  apply eq_of_ofResult?
  rw [ofResult?_matchInto, h, Option.map_some]

/-- What starts from empty selections records nothing unless it matches. -/
theorem matchInto_any_of_failure {v : Value} {out : Selections}
    (h : (matchInto (any ps) v out).1 = false) : (matchInto (any ps) v out).2 = out := by
  rw [matchInto] at h ⊢
  cases hbranch : matchAny ps v with
  | none => rfl
  | some branch =>
      rw [hbranch] at h
      cases h

/-- An array match that fails records nothing, not even what the elements before captured. -/
theorem matchInto_each_of_failure {v : Value} {out : Selections}
    (h : (matchInto (each p) v out).1 = false) : (matchInto (each p) v out).2 = out := by
  rw [matchInto] at h ⊢
  cases hitems : v.items? with
  | none => rfl
  | some items =>
      cases hrows : items.mapM fun item => ofResult? (matchInto p item ∅) with
      | none => simp only [hrows]
      | some rows => simp only [hitems, hrows, Bool.true_eq_false] at h

/-- **A match keeps earlier captures.**  They do not decide whether a pattern matches.  If it does,
what it captures by itself is written over them.  If it does not, those under other keys than its
own are still there; of an alternative, an array match and a negation all of them are.  A negation
never changes any. -/
theorem matchInto_keeps_earlier (p : Pattern) (v : Value) (out : Selections) :
    (matchInto p v out).1 = (matchInto p v ∅).1 ∧
    ((matchInto p v out).1 = true → ∃ s, p.match? v = some s ∧
      (matchInto p v out).2 = out.merge s ∧
      ∀ k, (matchInto p v out).2.get? k = if s.contains k then s.get? k else out.get? k) ∧
    ((matchInto p v out).1 = false →
      (∀ k, k ∉ p.keys → (matchInto p v out).2.get? k = out.get? k) ∧
      ((∃ ps, p = any ps) ∨ (∃ q, p = each q) ∨ (∃ q, p = not q) →
        (matchInto p v out).2 = out)) ∧
    ∀ q, (matchInto (not q) v out).2 = out := by
  have hmatched : (matchInto p v out).1 = (matchInto p v ∅).1 := by
    rw [matchInto_eq]
    rfl
  refine ⟨hmatched, fun h => ?_, fun h => ⟨fun k hk => spares_of_not_mem_keys hk v out, ?_⟩,
    fun _ => rfl⟩
  · have hsome : (p.match? v).isSome = true := by
      rw [← matches_eq, ← h, hmatched]
      rfl
    obtain ⟨s, hs⟩ := Option.isSome_iff_exists.mp hsome
    refine ⟨s, hs, ?_⟩
    rw [matchInto_of_match? hs out]
    refine ⟨rfl, fun k => ?_⟩
    show (out.merge s).get? k = _
    rw [get?_merge, contains]
    cases s.get? k <;> rfl
  · rintro (⟨ps, rfl⟩ | ⟨q, rfl⟩ | ⟨q, rfl⟩)
    · exact matchInto_any_of_failure h
    · exact matchInto_each_of_failure h
    · rfl

/-- A capture, and beside it a pair with a capture of its own, or `null`. -/
def besidePairOrNull : Pattern :=
  object [("a", select (.named "x") none),
    ("b", any [tuple [select (.named "y") none, kind .number], kind .null])]

/-- A pair whose second item does not match fails after the first one was captured.  That capture
is lost with the alternative, while the one beside it stays. -/
theorem matchInto_keeps_earlier_partWay :
    let earlier := ofList [(.named "x", .part .null), (.named "z", .part .null)]
    let taken := Value.object 0 [("a", .bool true), ("b", .null)]
    let refused := Value.object 0 [("a", .bool true), ("b", .array 1 [.null, .null])]
    ((matchInto besidePairOrNull taken earlier).1 = true ∧
      (∃ s, besidePairOrNull.match? taken = some s ∧
        (matchInto besidePairOrNull taken earlier).2 = earlier.merge s) ∧
      (matchInto besidePairOrNull taken earlier).2 = ofList [(.named "x", .part (.bool true)),
        (.named "y", .undefined), (.named "z", .part .null)]) ∧
    (matchInto besidePairOrNull refused earlier).1 = false ∧
      (matchInto besidePairOrNull refused earlier).2.get? (.named "x") =
        some (.part (.bool true)) ∧
      .named "z" ∉ besidePairOrNull.keys ∧
      (matchInto besidePairOrNull refused earlier).2.get? (.named "z") =
        earlier.get? (.named "z") := by
  intro earlier taken refused
  obtain ⟨s, hs, hmerge, -⟩ := (matchInto_keeps_earlier besidePairOrNull taken earlier).2.1 rfl
  have hkey : .named "z" ∉ besidePairOrNull.keys := by decide
  have hkept := ((matchInto_keeps_earlier besidePairOrNull refused earlier).2.2.1 rfl).1 _ hkey
  exact ⟨⟨rfl, ⟨s, hs, hmerge⟩, rfl⟩, rfl, rfl, hkey, hkept⟩

end Casebook.Pattern
