/-!
# Casebook.Table

Tables from names to entries, written as association lists whose keys strictly increase by
code point.  Objects of the value model and of JSON hold such a list directly (a proof
cannot sit inside a recursive type); captures are kept in a `Table`, which carries the
proof.

* `Props.sorted_insert` — a list stays in order when an entry is written;
* `Props.lookup_insert` — reading after writing;
* `Props.eq_of_lookup_eq` — an ordered list is determined by what it answers.
-/

namespace Casebook

universe u v

/-! ## ordered association lists -/

/-- Pairs of a key and an entry, in the order they are written. -/
abbrev Props (α : Type u) := List (String × α)

namespace Props

variable {α : Type u} {β : Type v}

/-- Keys strictly increase, so none occurs twice. -/
def Sorted (ps : Props α) : Prop := ps.Pairwise fun a b => a.1 < b.1

/-- The entry under `key`. -/
def lookup (key : String) : Props α → Option α
  | [] => none
  | (k, a) :: ps => if k = key then some a else lookup key ps

/-- Write `a` under `key`, replacing the entry that is there. -/
def insert (key : String) (a : α) : Props α → Props α
  | [] => [(key, a)]
  | (k, b) :: ps =>
      if k = key then (key, a) :: ps
      else if key < k then (key, a) :: (k, b) :: ps
      else (k, b) :: insert key a ps

/-- Pairs written one after the other: a later pair replaces an earlier one of the same key. -/
def ofList (pairs : List (String × α)) : Props α :=
  pairs.foldl (fun ps kv => insert kv.1 kv.2 ps) []

/-- The keys, in order. -/
def keys (ps : Props α) : List String := ps.map Prod.fst

@[simp] theorem lookup_nil (key : String) : lookup key ([] : Props α) = none := rfl

theorem lookup_cons (key k : String) (a : α) (ps : Props α) :
    lookup key ((k, a) :: ps) = if k = key then some a else lookup key ps := rfl

/-- Reading an entry of a list whose entries have been changed one by one. -/
theorem lookup_map (f : α → β) (key : String) (ps : Props α) :
    lookup key (ps.map fun p => (p.1, f p.2)) = (lookup key ps).map f := by
  induction ps with
  | nil => rfl
  | cons p ps ih =>
      obtain ⟨k, a⟩ := p
      rw [List.map_cons, lookup_cons, lookup_cons, ih]
      split <;> rfl

@[simp] theorem sorted_nil : Sorted ([] : Props α) := List.Pairwise.nil

/-- The order of a list is that of its keys, whatever the entries. -/
theorem sorted_map {f : α → β} {ps : Props α} (h : Sorted ps) :
    Sorted (ps.map fun p => (p.1, f p.2)) :=
  List.pairwise_map.mpr h

/-- Of two different keys one comes first. -/
theorem lt_of_not_lt {a b : String} (hne : a ≠ b) (h : ¬ b < a) : a < b :=
  String.not_le.mp fun hle => hne (String.le_antisymm (String.not_lt.mp h) hle)

/-- Writing an entry adds its own key at most. -/
theorem mem_keys_insert {key k : String} {a : α} {ps : Props α}
    (h : k ∈ keys (insert key a ps)) : k = key ∨ k ∈ keys ps := by
  induction ps with
  | nil => simpa [insert, keys] using h
  | cons p ps ih =>
      obtain ⟨k', b⟩ := p
      simp only [insert] at h
      split at h
      · simp only [keys, List.map_cons, List.mem_cons] at h ⊢;
        rcases h with h | h
        · exact Or.inl h
        · exact Or.inr (Or.inr h)
      · split at h
        · simpa [keys] using h
        · simp only [keys, List.map_cons, List.mem_cons] at h ih ⊢
          rcases h with h | h
          · exact Or.inr (Or.inl h)
          · rcases ih h with h | h
            · exact Or.inl h
            · exact Or.inr (Or.inr h)

/-- Writing an entry keeps a list in order. -/
theorem sorted_insert {key : String} {a : α} {ps : Props α} (h : Sorted ps) :
    Sorted (insert key a ps) := by
  induction ps with
  | nil => simp [insert, Sorted]
  | cons p ps ih =>
      obtain ⟨k, b⟩ := p
      obtain ⟨hk, hps⟩ := List.pairwise_cons.mp h
      simp only [insert]
      split
      case isTrue heq => exact List.pairwise_cons.mpr ⟨fun q hq => heq ▸ hk q hq, hps⟩
      case isFalse hne =>
          split
          case isTrue hlt =>
              refine List.pairwise_cons.mpr ⟨fun q hq => ?_, h⟩
              rcases List.mem_cons.mp hq with rfl | hq
              · exact hlt
              · exact String.lt_trans hlt (hk q hq)
          case isFalse hnlt =>
              refine List.pairwise_cons.mpr ⟨fun q hq => ?_, ih hps⟩
              rcases mem_keys_insert (List.mem_map_of_mem hq) with hq' | hq'
              · rw [hq']; exact lt_of_not_lt hne hnlt
              · obtain ⟨r, hr, hrk⟩ := List.mem_map.mp hq'
                exact hrk ▸ hk r hr

/-- Reading after writing: the entry under its key, and what was there under the others. -/
theorem lookup_insert (key key' : String) (a : α) (ps : Props α) :
    lookup key' (insert key a ps) = if key = key' then some a else lookup key' ps := by
  induction ps with
  | nil => simp [insert, lookup]
  | cons p ps ih => obtain ⟨k, b⟩ := p; grind [insert, lookup]

/-- A key is listed iff there is an entry to read. -/
theorem mem_keys_iff {key : String} {ps : Props α} :
    key ∈ keys ps ↔ (lookup key ps).isSome = true := by
  induction ps with
  | nil => simp [keys]
  | cons p ps ih =>
      obtain ⟨k, a⟩ := p
      rw [lookup_cons, keys, List.map_cons, List.mem_cons]
      by_cases h : k = key
      · simp [h]
      · rw [if_neg h, ← ih]
        exact or_iff_right (Ne.symm h)

/-- A key below every key of an ordered list is not in it. -/
theorem lookup_eq_none_of_lt {key : String} {ps : Props α} (h : ∀ p ∈ ps, key < p.1) :
    lookup key ps = none := by
  induction ps with
  | nil => rfl
  | cons p ps ih =>
      obtain ⟨k, b⟩ := p
      have hk : key < k := h _ List.mem_cons_self
      have hne : k ≠ key := fun he => String.lt_irrefl k (he ▸ hk)
      rw [lookup_cons, if_neg hne]
      exact ih fun q hq => h q (List.mem_cons_of_mem _ hq)

/-- An ordered list is determined by what it answers. -/
theorem eq_of_lookup_eq {ps qs : Props α} (hp : Sorted ps) (hq : Sorted qs)
    (h : ∀ key, lookup key ps = lookup key qs) : ps = qs := by
  induction ps generalizing qs with
  | nil =>
      cases qs with
      | nil => rfl
      | cons q qs => simpa [lookup] using h q.1
  | cons p ps ih =>
      obtain ⟨k, a⟩ := p
      cases qs with
      | nil => simpa [lookup] using h k
      | cons q qs =>
          obtain ⟨k', b⟩ := q
          obtain ⟨hk, hps⟩ := List.pairwise_cons.mp hp
          obtain ⟨hk', hqs⟩ := List.pairwise_cons.mp hq
          have hkk : k = k' := by
            apply Classical.byContradiction
            intro hne
            by_cases hlt : k < k'
            · have h1 := h k
              rw [lookup_cons, if_pos rfl, lookup_cons, if_neg (Ne.symm hne),
                lookup_eq_none_of_lt fun q hq => String.lt_trans hlt (hk' q hq)] at h1
              exact absurd h1 (by simp)
            · have hlt' : k' < k := lt_of_not_lt (Ne.symm hne) hlt
              have h1 := h k'
              rw [lookup_cons, if_neg hne, lookup_cons, if_pos rfl,
                lookup_eq_none_of_lt fun q hq => String.lt_trans hlt' (hk q hq)] at h1
              exact absurd h1 (by simp)
          subst hkk
          have hab : a = b := by simpa [lookup] using h k
          subst hab
          refine congrArg _ (ih hps hqs fun key => ?_)
          have h1 := h key
          simp only [lookup_cons] at h1
          split at h1
          case isTrue heq =>
              subst heq
              rw [lookup_eq_none_of_lt hk, lookup_eq_none_of_lt hk']
          case isFalse => exact h1

end Props

/-! ## tables -/

/-- An association list in key order. -/
structure Table (α : Type u) where
  pairs : Props α
  sorted : pairs.Sorted

namespace Table

variable {α : Type u}

def empty : Table α := ⟨[], Props.sorted_nil⟩

instance : EmptyCollection (Table α) := ⟨empty⟩

instance : Inhabited (Table α) := ⟨empty⟩

def get? (t : Table α) (key : String) : Option α := t.pairs.lookup key

def insert (t : Table α) (key : String) (a : α) : Table α :=
  ⟨t.pairs.insert key a, Props.sorted_insert t.sorted⟩

def isEmpty (t : Table α) : Bool := t.pairs.isEmpty

def size (t : Table α) : Nat := t.pairs.length

/-- `t` with every pair of `s` written over it. -/
def merge (t s : Table α) : Table α :=
  s.pairs.foldl (fun t kv => t.insert kv.1 kv.2) t

theorem get?_insert (t : Table α) (key key' : String) (a : α) :
    (t.insert key a).get? key' = if key = key' then some a else t.get? key' :=
  Props.lookup_insert key key' a t.pairs

/-- Of several entries written one after the other, in order, each is read back. -/
theorem get?_foldl_insert (pairs : Props α) (h : pairs.Sorted) (t : Table α) (key : String) :
    (pairs.foldl (fun t kv => t.insert kv.1 kv.2) t).get? key =
      (pairs.lookup key <|> t.get? key) := by
  induction pairs generalizing t with
  | nil => rfl
  | cons p ps ih =>
      obtain ⟨k, a⟩ := p
      obtain ⟨hk, hps⟩ := List.pairwise_cons.mp h
      rw [List.foldl_cons, ih hps, Props.lookup_cons, get?_insert]
      by_cases he : k = key
      · subst he
        simp [Props.lookup_eq_none_of_lt hk]
      · simp [he]

/-- A merged table answers from the second one first. -/
theorem get?_merge (t s : Table α) (key : String) :
    (t.merge s).get? key = (s.get? key <|> t.get? key) :=
  get?_foldl_insert s.pairs s.sorted t key

/-- A table is determined by what it answers. -/
theorem ext_get? {t s : Table α} (h : ∀ key, t.get? key = s.get? key) : t = s := by
  obtain ⟨ps, hp⟩ := t
  obtain ⟨qs, hq⟩ := s
  have : ps = qs := Props.eq_of_lookup_eq hp hq h
  subst this
  rfl

end Table

end Casebook
