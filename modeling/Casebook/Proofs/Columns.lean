import Casebook.Proofs.MatchByParts
import Casebook.Proofs.RecordedKeys

/-!
# Casebook.Proofs.Columns

What matching every element of an array captures.  Each element is matched by itself, and what the
elements captured under one key goes into one column.  All of them capture under the same keys, so
no column is shorter than the array and none has a gap to be filled.

* `Capture.Becomes`, `toValue_column` — the array that a column stands for;
* `Pattern.Columns` — selections that hold the captures of some values, column by column;
* `columns_of_match?_each`, `Columns.unique` — an array match gives such selections, and there are
  no others;
* `match?_each_eq_some_iff` — so that is what an array match is.
-/

namespace Casebook

open List (Forall₂)

/-! ## columns as arrays -/

namespace Capture

/-- The value is what becomes of the capture when its columns and records are given identities. -/
def Becomes (c : Capture) (w : Value) : Prop := ∃ next, (c.build next).1 = w

/-- A part stays what it is, identity and all. -/
theorem becomes_part {v w : Value} : (part v).Becomes w ↔ v = w :=
  ⟨fun ⟨_, h⟩ => h, fun h => ⟨0, h⟩⟩

/-- Each entry of a column becomes the element at its place. -/
theorem becomes_buildEntries (entries : List Capture) (next : Nat) :
    Forall₂ Becomes entries (buildEntries entries next).1 := by
  induction entries generalizing next with
  | nil => exact .nil
  | cons c cs ih => exact .cons ⟨next, rfl⟩ (ih (c.build next).2)

/-- A column stands for an array of what its entries stand for. -/
theorem toValue_column (entries : List Capture) :
    ∃ identity vs, (column entries).toValue = .array identity vs ∧ Forall₂ Becomes entries vs :=
  ⟨_, _, rfl, becomes_buildEntries entries _⟩

end Capture

namespace Pattern

open Selections

/-- Under each key of the pattern a column with an entry for every value, in their order: what the
value captures there when it is matched by itself.  Nothing is under other keys. -/
structure Columns (p : Pattern) (items : List Value) (s : Selections) : Prop where
  contains_iff : ∀ k, s.contains k = true ↔ k ∈ p.keys
  exists_column : ∀ k ∈ p.keys, ∃ entries, s.get? k = some (.column entries) ∧
    Forall₂ (fun item entry => ∃ row, p.match? item = some row ∧ row.get? k = some entry)
      items entries

variable {p : Pattern} {i : Nat} {items : List Value} {s t : Selections}

/-! ## element by element -/

/-- An array match gathers, under each key, what every element captures when it is matched by
itself. -/
theorem columns_of_match?_each (h : (each p).match? (.array i items) = some s) :
    p.Columns items s where
  contains_iff := contains_match? (p := each p) h
  exists_column k hk := by
    rw [match?_each] at h
    obtain ⟨rows, hrows, rfl⟩ := Option.map_eq_some_iff.mp h
    refine ⟨rows.map fun row => row.cell k, get?_foldl_record.trans (if_pos hk), ?_⟩
    rw [List.forall₂_map_right_iff]
    exact (forall₂_of_mapM hrows).imp fun _ row hrow => ⟨row, hrow, get?_eq_cell hrow hk⟩

/-- The elements determine the entries of a column. -/
theorem entries_unique {k : SelectionKey} {entries entries' : List Capture}
    (h : Forall₂ (fun item entry => ∃ row, p.match? item = some row ∧ row.get? k = some entry)
      items entries)
    (h' : Forall₂ (fun item entry => ∃ row, p.match? item = some row ∧ row.get? k = some entry)
      items entries') : entries = entries' := by
  induction h generalizing entries' with
  | nil =>
      cases h'
      rfl
  | cons hc _ ih =>
      cases h' with
      | cons hc' hcs' =>
          obtain ⟨row, hrow, hget⟩ := hc
          obtain ⟨row', hrow', hget'⟩ := hc'
          obtain rfl : row = row' := Option.some.inj (hrow.symm.trans hrow')
          rw [Option.some.inj (hget.symm.trans hget'), ih hcs']

/-- The columns of some values are determined by what the values capture, so that there are no
others. -/
theorem Columns.unique (hs : p.Columns items s) (ht : p.Columns items t) : s = t := by
  apply ext_get?
  intro k
  by_cases hk : k ∈ p.keys
  · obtain ⟨entries, hget, hentries⟩ := hs.exists_column k hk
    obtain ⟨entries', hget', hentries'⟩ := ht.exists_column k hk
    rw [hget, hget', entries_unique hentries hentries']
  · have hnone : ∀ {u : Selections}, p.Columns items u → u.get? k = none := fun hu =>
      get?_eq_none_iff.mpr fun hc => hk ((hu.contains_iff k).mp hc)
    rw [hnone hs, hnone ht]

/-- If every element matches, so does the array. -/
theorem exists_match?_each (h : ∀ item ∈ items, p.matches item = true) (i : Nat) :
    ∃ s, (each p).match? (.array i items) = some s := by
  apply Option.isSome_iff_exists.mp
  rw [← matches_eq, matches_each]
  exact List.all_eq_true.mpr h

/-- **An array match captures in columns.**  It matches an array iff its pattern matches every
element, and its captures are the columns of what the elements capture by themselves.  A column
stands for an array as long as the one that was matched, and of an empty array there are empty
columns. -/
theorem match?_each_eq_some_iff (p : Pattern) (i : Nat) (items : List Value) :
    ((each p).matches (.array i items) = true ↔ ∀ item ∈ items, p.matches item = true) ∧
    (∀ s, (each p).match? (.array i items) = some s ↔
      (∀ item ∈ items, p.matches item = true) ∧ p.Columns items s) ∧
    (∀ s, (each p).match? (.array i items) = some s →
      ∀ k entries, s.get? k = some (.column entries) →
        ∃ identity vs, (Capture.column entries).toValue = .array identity vs ∧
          vs.length = items.length ∧ Forall₂ Capture.Becomes entries vs) ∧
    ∃ s, (each p).match? (.array i []) = some s ∧ ∀ k ∈ p.keys, s.get? k = some (.column []) := by
  have hmatches : (each p).matches (.array i items) = true ↔
      ∀ item ∈ items, p.matches item = true := by
    rw [matches_each]
    exact List.all_eq_true
  refine ⟨hmatches, fun s => ⟨fun hs => ⟨?_, columns_of_match?_each hs⟩, ?_⟩, ?_, ?_⟩
  · rw [← hmatches, matches_eq, hs, Option.isSome_some]
  · rintro ⟨hall, hcolumns⟩
    obtain ⟨t, ht⟩ := exists_match?_each hall i
    rw [ht, hcolumns.unique (columns_of_match?_each ht)]
  · intro s hs k entries hget
    have hcolumns := columns_of_match?_each hs
    have hk : k ∈ p.keys := (hcolumns.contains_iff k).mp (by rw [contains, hget]; rfl)
    obtain ⟨entries', hget', hentries⟩ := hcolumns.exists_column k hk
    obtain rfl : entries = entries' := by simpa using hget.symm.trans hget'
    obtain ⟨identity, vs, hvalue, hvs⟩ := Capture.toValue_column entries
    exact ⟨identity, vs, hvalue, hvs.length_eq.symm.trans hentries.length_eq.symm, hvs⟩
  · obtain ⟨s, hs⟩ := exists_match?_each (p := p) (List.forall_mem_nil _) i
    refine ⟨s, hs, fun k hk => ?_⟩
    obtain ⟨entries, hget, hentries⟩ := (columns_of_match?_each hs).exists_column k hk
    cases hentries
    exact hget

/-- An array of which each element is captured, or an object. -/
def listOrObject : Pattern :=
  any [each (select (.named "x") none), select (.named "y") (some (kind .object))]

/-- An array with an array and an object in it. -/
def listAndObject : List Value := [.array 1 [.array 2 [], .null], .object 3 []]

/-- The inner array gives a column within a column, and each element is `undefined` under the key
of the alternative that it does not match.  The object is in its column itself. -/
theorem match?_each_eq_some_iff_listOrObject :
    ∃ s, (each listOrObject).match? (.array 0 listAndObject) = some s ∧
      s.get? (.named "x") =
        some (.column [.column [.part (.array 2 []), .part .null], .undefined]) ∧
      s.get? (.named "y") = some (.column [.undefined, .part (.object 3 [])]) ∧
      listOrObject.Columns listAndObject s ∧
      ∃ identity, (Capture.column [.undefined, .part (.object 3 [])]).toValue =
        .array identity [.undefined, .object 3 []] := by
  have hsome : ((each listOrObject).match? (.array 0 listAndObject)).isSome = true := rfl
  obtain ⟨s, hs⟩ := Option.isSome_iff_exists.mp hsome
  obtain rfl := Option.some.inj hs
  obtain ⟨-, hiff, hvalue, -⟩ := match?_each_eq_some_iff listOrObject 0 listAndObject
  obtain ⟨identity, vs, hv, -, hvs⟩ := hvalue _ hs (.named "y") _ rfl
  refine ⟨_, hs, rfl, rfl, ((hiff _).mp hs).2, identity, hv.trans (congrArg _ ?_)⟩
  cases hvs with
  | cons hundefined hvs =>
      cases hvs with
      | cons hobject hnil =>
          cases hnil
          rw [← Capture.becomes_part.mp hundefined, ← Capture.becomes_part.mp hobject]

end Pattern

end Casebook
