import Casebook.Proofs.Occurrences

/-!
# Casebook.Proofs.KeyOrder

The keys of a pattern in the order in which they are first written.  Paths are compared as words:
a node comes before those below it, and what is below one child before what is below the next.

* `Pattern.places` — the selections outside every negation, each with the path to it, in this
  order;
* `mem_places_iff`, `pairwise_places` — these are all of them, and the order is as it should be;
* `collect_eq` — the walk of `Pattern.Keys` passes through these places one after the other;
* `keys_eq_places` — the keys are those of the places without repetitions, and the census knows
  the same ones.
-/

namespace Casebook.Pattern

/-! ## places in order -/

/-- The places in child `i`, with paths from the parent. -/
def inChild (i : Nat) (places : List (List Nat × SelectionKey)) : List (List Nat × SelectionKey) :=
  places.map fun place => (i :: place.1, place.2)

mutual

/-- The selections of a pattern outside every negation, with their paths and keys.  A selection
comes before those inside it, and parts come from left to right. -/
def places : Pattern → List (List Nat × SelectionKey)
  | select key none => [([], key)]
  | select key (some p) => ([], key) :: inChild 0 (places p)
  | object fields => placesFields 0 fields
  | tuple ps | all ps | any ps => placesParts 0 ps
  | each p | optional p => inChild 0 (places p)
  | literal _ | wildcard | not _ | kind _ | when _ => []

/-- The places in some parts, of which the first is child `i`. -/
def placesParts (i : Nat) : List Pattern → List (List Nat × SelectionKey)
  | [] => []
  | p :: ps => inChild i (places p) ++ placesParts (i + 1) ps

def placesFields (i : Nat) : List (String × Pattern) → List (List Nat × SelectionKey)
  | [] => []
  | (_, p) :: fields => inChild i (places p) ++ placesFields (i + 1) fields

end

/-- The place of a selection itself. -/
def rootPlace : Pattern → List (List Nat × SelectionKey)
  | select key _ => [([], key)]
  | _ => []

theorem placesFields_eq (i : Nat) (fields : List (String × Pattern)) :
    placesFields i fields = placesParts i (fields.map Prod.snd) := by
  induction fields generalizing i with
  | nil => simp [placesFields, placesParts]
  | cons f fields ih => simp [placesFields, placesParts, ih]

/-- The places of a pattern by way of its children. -/
theorem places_eq (p : Pattern) :
    p.places = p.rootPlace ++ if p.isNegation then [] else placesParts 0 p.children := by
  cases p with
  | select key inner =>
      cases inner <;> simp [places, rootPlace, isNegation, children, placesParts]
  | object fields => simp [places, rootPlace, isNegation, children, placesFields_eq]
  | _ => simp [places, rootPlace, isNegation, children, placesParts]

/-! ## all places -/

variable {p : Pattern} {key : SelectionKey} {path : List Nat}

/-- A place inside child `i` is one of the child's own, with `i` put before its path. -/
theorem mem_inChild {i : Nat} {places : List (List Nat × SelectionKey)} :
    (path, key) ∈ inChild i places ↔ ∃ rest, path = i :: rest ∧ (rest, key) ∈ places := by
  simp only [inChild, List.mem_map, Prod.mk.injEq, Prod.exists]
  grind

/-- The places in some parts are those of each part, behind its number. -/
theorem mem_placesParts {i : Nat} {ps : List Pattern} :
    (path, key) ∈ placesParts i ps ↔
      ∃ j q rest, ps[j]? = some q ∧ path = (i + j) :: rest ∧ (rest, key) ∈ q.places := by
  induction ps generalizing i with
  | nil => simp [placesParts]
  | cons p ps ih =>
      rw [placesParts, List.mem_append, mem_inChild, ih]
      constructor
      · rintro (⟨rest, rfl, hrest⟩ | ⟨j, q, rest, hq, rfl, hrest⟩)
        · exact ⟨0, p, rest, rfl, rfl, hrest⟩
        · exact ⟨j + 1, q, rest, hq, by simp [Nat.add_assoc, Nat.add_comm 1], hrest⟩
      · rintro ⟨j, q, rest, hq, rfl, hrest⟩
        cases j with
        | zero =>
            obtain rfl : p = q := Option.some.inj hq
            exact .inl ⟨rest, rfl, hrest⟩
        | succ j => exact .inr ⟨j, q, rest, hq, by simp [Nat.add_assoc, Nat.add_comm 1], hrest⟩

/-- The walk lists a place exactly if a selection is live there. -/
theorem mem_places_iff (p : Pattern) (path : List Nat) (key : SelectionKey) :
    (path, key) ∈ p.places ↔ p.Live path key := by
  induction p using childInduction generalizing path with
  | h p ih =>
      rw [places_eq, List.mem_append]
      cases path with
      | nil =>
          have hchildren : ([], key) ∉ placesParts 0 p.children := by simp [mem_placesParts]
          have hroot : ([], key) ∈ p.rootPlace ↔ ∃ inner, p = select key inner := by
            cases p <;> simp [rootPlace, eq_comm]
          rw [live_nil, hroot]
          split <;> simp [hchildren]
      | cons i path =>
          have hroot : (i :: path, key) ∉ p.rootPlace := by
            cases p <;> simp [rootPlace]
          rw [or_iff_right hroot]
          constructor
          · intro h
            split at h
            case isTrue => simp at h
            case isFalse hp =>
                obtain ⟨j, q, rest, hq, hpath, hrest⟩ := mem_placesParts.mp h
                obtain ⟨rfl, rfl⟩ : i = j ∧ path = rest := by simpa using hpath
                have hlive := (ih q (List.mem_of_getElem? hq) path).mp hrest
                exact (live_cons hq).mpr ⟨by simpa using hp, hlive⟩
          · intro h
            obtain ⟨q, hq, hp, hlive⟩ := exists_child_of_live h
            have hrest := (ih q (List.mem_of_getElem? hq) path).mpr hlive
            rw [hp]
            exact mem_placesParts.mpr ⟨i, q, path, hq, by simp, hrest⟩

/-! ## the order of places -/

/-- A common first step does not change the order of places. -/
theorem pairwise_inChild {i : Nat} {places : List (List Nat × SelectionKey)}
    (h : places.Pairwise fun a b => a.1 < b.1) :
    (inChild i places).Pairwise fun a b => a.1 < b.1 := by
  simpa [inChild, List.pairwise_map, List.cons_lt_cons_iff] using h

/-- If the places of every part come in order, so do those of all parts: part numbers grow along the
list. -/
theorem pairwise_placesParts {ps : List Pattern}
    (h : ∀ q ∈ ps, q.places.Pairwise fun a b => a.1 < b.1) (i : Nat) :
    (placesParts i ps).Pairwise fun a b => a.1 < b.1 := by
  induction ps generalizing i with
  | nil => simp [placesParts]
  | cons p ps ih =>
      obtain ⟨hp, hps⟩ := List.forall_mem_cons.mp h
      rw [placesParts, List.pairwise_append]
      refine ⟨pairwise_inChild hp, ih hps (i + 1), ?_⟩
      -- what is below a child comes before what is below a later one
      intro a ha b hb
      obtain ⟨path, hpath, -⟩ := mem_inChild.mp ha
      obtain ⟨j, q, path', -, hpath', -⟩ := mem_placesParts.mp hb
      have hlt : i < i + 1 + j := by omega
      simp [hpath, hpath', List.cons_lt_cons_iff, hlt]

/-- The walk lists the places of a pattern in the order of their paths, a selection before those
inside it. -/
theorem pairwise_places (p : Pattern) : p.places.Pairwise fun a b => a.1 < b.1 := by
  induction p using childInduction with
  | h p ih =>
      have hchildren := pairwise_placesParts ih 0
      rw [places_eq, List.pairwise_append]
      refine ⟨by cases p <;> simp [rootPlace], by split <;> simp [hchildren], ?_⟩
      -- the root comes before what is below it
      intro a ha b hb
      have hroot : a.1 = [] := by
        cases p <;> simp [rootPlace] at ha
        simp [ha]
      split at hb
      case isTrue => simp at hb
      case isFalse =>
          obtain ⟨j, q, path, -, hpath, -⟩ := mem_placesParts.mp hb
          simp [hroot, hpath]

/-! ## the walk -/

/-- Adding keys one after the other leaves out what is there already. -/
theorem foldl_addKey_eraseDups (keys more : List SelectionKey) :
    more.foldl addKey keys.eraseDups = (keys ++ more).eraseDups := by
  induction more generalizing keys with
  | nil => simp
  | cons key more ih =>
      have hadd : addKey keys.eraseDups key = (keys ++ [key]).eraseDups := by
        by_cases hkey : key ∈ keys <;>
          simp [addKey, List.eraseDups_append, List.eraseDups_cons, List.removeAll, hkey]
      rw [List.foldl_cons, hadd, ih, List.append_assoc, List.singleton_append]

/-- A first step changes paths only, and no keys. -/
theorem map_snd_inChild (i : Nat) (places : List (List Nat × SelectionKey)) :
    (inChild i places).map Prod.snd = places.map Prod.snd := by
  simp [inChild]

/-- Keys are collected from fields as from their patterns, whatever the fields are called. -/
theorem collectFields_eq (keys : List SelectionKey) (fields : List (String × Pattern)) :
    collectFields keys fields = collectParts keys (fields.map Prod.snd) := by
  induction fields generalizing keys with
  | nil => simp [collectFields, collectParts]
  | cons f fields ih => simp [collectFields, collectParts, ih]

/-- The walk by way of the children. -/
theorem collect_children (p : Pattern) (keys : List SelectionKey) :
    collect keys p =
      if p.isNegation then keys
      else collectParts ((p.rootPlace.map Prod.snd).foldl addKey keys) p.children := by
  cases p with
  | select key inner =>
      cases inner <;> simp [collect, collectParts, rootPlace, isNegation, children]
  | object fields => simp [collect, rootPlace, isNegation, children, collectFields_eq]
  | _ => simp [collect, collectParts, rootPlace, isNegation, children]

/-- If every part adds the keys at its places, so do all parts, one after the other. -/
theorem collectParts_eq {ps : List Pattern}
    (h : ∀ q ∈ ps, ∀ keys, collect keys q = (q.places.map Prod.snd).foldl addKey keys)
    (keys : List SelectionKey) (i : Nat) :
    collectParts keys ps = ((placesParts i ps).map Prod.snd).foldl addKey keys := by
  induction ps generalizing keys i with
  | nil => simp [collectParts, placesParts]
  | cons p ps ih =>
      obtain ⟨hp, hps⟩ := List.forall_mem_cons.mp h
      rw [collectParts, placesParts, hp, ih hps _ (i + 1), List.map_append, List.foldl_append,
        map_snd_inChild]

/-- To collect the keys of a pattern is to add those at its places in order, each at its first
occurrence. -/
theorem collect_eq (p : Pattern) (keys : List SelectionKey) :
    collect keys p = (p.places.map Prod.snd).foldl addKey keys := by
  induction p using childInduction generalizing keys with
  | h p ih =>
      rw [collect_children, places_eq]
      cases hp : p.isNegation with
      | true =>
          have hroot : p.rootPlace = [] := by
            cases p <;> simp [isNegation] at hp
            simp [rootPlace]
          simp [hroot]
      | false => simp [collectParts_eq ih _ 0]

/-- **Keys are listed in the order of their places.**  The keys of a pattern are those of its
selections outside every negation, an outer one before those inside it and parts from left to
right, and of each key only the first is left.  The census lists the same names, each once, and
counts anonymous captures iff the anonymous key is among the keys. -/
theorem keys_eq_places (p : Pattern) :
    (∀ path key, (path, key) ∈ p.places ↔ p.Live path key) ∧
    p.places.Pairwise (fun a b => a.1 < b.1) ∧
    p.keys = (p.places.map Prod.snd).eraseDups ∧ p.keys.Nodup ∧
    (∀ name, name ∈ p.census.named ↔ .named name ∈ p.keys) ∧ p.census.named.Nodup ∧
    (0 < p.census.anonymous ↔ .anonymous ∈ p.keys) := by
  have hkeys : p.keys = (p.places.map Prod.snd).eraseDups := by
    rw [keys, collect_eq]
    exact foldl_addKey_eraseDups [] _
  exact ⟨mem_places_iff p, pairwise_places p, hkeys, nodup_keys p,
    fun name => holds_census p (.named name), (nodup_census p).named, holds_census p .anonymous⟩

/-- An outer selection comes first, a repetition is left out, and a negation has no keys. -/
example :
    let p := object [("a", select (.named "x") (some (tuple [select (.named "y") none]))),
      ("b", not (select (.named "z") none)), ("c", any [select (.named "y") none, wildcard])]
    p.places = [([0], .named "x"), ([0, 0, 0], .named "y"), ([2, 0], .named "y")] ∧
      p.keys = [.named "x", .named "y"] := by
  decide

end Casebook.Pattern
