import Casebook.Proofs.RepeatedNames

/-!
# Casebook.Proofs.Occurrences

The rules of selection as a law about pairs of places.  A selection counts where it stands outside
every negation, and two that count may both capture in one match unless the node where their paths
part is an alternative.  Keys and census are computed from the leaves up, by walks that know nothing
of paths.

* `Pattern.Live`, `live_nil`, `live_cons` — the places where a selection counts;
* `mem_keys_iff_selects` — the keys of a pattern are those it selects at some place;
* `SelectsTwice`, `selectsTwice_iff` — two places that capture in one match, by way of the children;
* `repeats_census` — these are the keys that the census finds captured twice;
* `validate_iff_places` — what the check of the rules comes to, read off the places.
-/

namespace Casebook.Pattern

/-! ## places -/

/-- At the end of the path stands a selection under `key`, and no negation on the way. -/
structure Live (p : Pattern) (path : List Nat) (key : SelectionKey) : Prop where
  select_at : ∃ inner, p.at? path = some (select key inner)
  not_negated : Along (fun q => q.isNegation = false) p path

/-- Two selections that may both capture in one match: not the same one, and where their paths part
(at the outer one if one is inside the other) is no alternative. -/
structure CoSelectable (p : Pattern) (path path' : List Nat) : Prop where
  ne : path ≠ path'
  not_choice : ∀ q, p.at? (commonPrefix path path') = some q → q.isChoice = false

/-- A selection under `key` counts at some place. -/
def Selects (p : Pattern) (key : SelectionKey) : Prop := ∃ path, p.Live path key

/-- Selections under `key` count at two places that may both capture. -/
def SelectsTwice (p : Pattern) (key : SelectionKey) : Prop :=
  ∃ path path', p.Live path key ∧ p.Live path' key ∧ p.CoSelectable path path'

variable {p q : Pattern} {key : SelectionKey} {i : Nat} {path path' : List Nat}

/-- At the root of a pattern a selection is live if the pattern is that selection. -/
theorem live_nil : p.Live [] key ↔ ∃ inner, p = select key inner := by
  constructor
  · rintro ⟨⟨inner, h⟩, -⟩
    exact ⟨inner, Option.some.inj h⟩
  · rintro ⟨inner, rfl⟩
    exact ⟨⟨inner, rfl⟩, along_nil.mpr rfl⟩

/-- Behind a first step, a selection is live if it is so in the child and the pattern is no
negation. -/
theorem live_cons (hq : p.children[i]? = some q) :
    p.Live (i :: path) key ↔ p.isNegation = false ∧ q.Live path key := by
  constructor
  · rintro ⟨h, halong⟩
    rw [at?_cons hq] at h
    rw [along_cons hq] at halong
    exact ⟨halong.1, h, halong.2⟩
  · rintro ⟨hp, h, halong⟩
    exact ⟨(at?_cons hq).symm ▸ h, (along_cons hq).mpr ⟨hp, halong⟩⟩

/-- A path to a place leads through a child. -/
theorem exists_child_of_live (h : p.Live (i :: path) key) :
    ∃ q, p.children[i]? = some q ∧ p.isNegation = false ∧ q.Live path key := by
  obtain ⟨inner, hinner⟩ := h.select_at
  obtain ⟨q, hq, -⟩ := Option.bind_eq_some_iff.mp hinner
  exact ⟨q, hq, (live_cons hq).mp h⟩

/-- A pattern selects a key if it is such a selection itself, or a child of it selects the key
outside a negation. -/
theorem selects_iff :
    p.Selects key ↔ (∃ inner, p = select key inner) ∨
      p.isNegation = false ∧ ∃ q ∈ p.children, q.Selects key := by
  constructor
  · rintro ⟨path, h⟩
    cases path with
    | nil => exact .inl (live_nil.mp h)
    | cons i path =>
        obtain ⟨q, hq, hp, hlive⟩ := exists_child_of_live h
        exact .inr ⟨hp, q, List.mem_of_getElem? hq, path, hlive⟩
  · rintro (h | ⟨hp, q, hq, path, hlive⟩)
    · exact ⟨[], live_nil.mpr h⟩
    · obtain ⟨i, hi⟩ := List.getElem?_of_mem hq
      exact ⟨i :: path, (live_cons hi).mpr ⟨hp, hlive⟩⟩

/-! ## keys -/

/-- The keys of a pattern by way of its children. -/
theorem mem_keys_iff (p : Pattern) (k : SelectionKey) :
    k ∈ p.keys ↔ (∃ inner, p = select k inner) ∨
      p.isNegation = false ∧ ∃ q ∈ p.children, k ∈ q.keys := by
  cases p with
  | select key inner =>
      cases inner with
      | none =>
          have hroot : (∃ inner, select key none = select k inner) ↔ k = key := by simp [eq_comm]
          rw [hroot]
          simp [keys, collect, mem_addKey, children]
      | some q => simp [mem_keys_select, children, isNegation, eq_comm]
  | object fields =>
      show k ∈ collectFields [] fields ↔ _
      rw [mem_collectFields_iff]
      simp [children, isNegation]
  | tuple ps | all ps | any ps =>
      show k ∈ collectParts [] ps ↔ _
      rw [mem_collectParts_iff]
      simp [children, isNegation]
  | each q | optional q =>
      show k ∈ q.keys ↔ _
      simp [children, isNegation]
  | literal _ | wildcard | not _ | kind _ | when _ =>
      simp [keys, collect, children, isNegation]

/-- The keys of a pattern are those it selects at some place. -/
theorem mem_keys_iff_selects (p : Pattern) (k : SelectionKey) : k ∈ p.keys ↔ p.Selects k := by
  induction p using childInduction with
  | h p ih =>
      rw [mem_keys_iff, selects_iff]
      simp only [and_congr_right_iff.mpr (ih _)]

/-! ## keys captured twice -/

/-- Places in different children may capture together unless only one of the children does. -/
theorem selectsTwice_of_children {j : Nat} {r : Pattern} (hp : p.isNegation = false)
    (hchoice : p.isChoice = false) (hq : p.children[i]? = some q) (hr : p.children[j]? = some r)
    (hij : i ≠ j) (hqs : q.Selects key) (hrs : r.Selects key) : p.SelectsTwice key := by
  obtain ⟨path, h⟩ := hqs
  obtain ⟨path', h'⟩ := hrs
  refine ⟨i :: path, j :: path', (live_cons hq).mpr ⟨hp, h⟩, (live_cons hr).mpr ⟨hp, h'⟩,
    fun he => hij (List.cons.inj he).1, ?_⟩
  rw [commonPrefix_cons_of_ne hij]
  exact fun s hs => Option.some.inj hs ▸ hchoice

/-- Paths with a common first step may both capture if they may in the child. -/
theorem coSelectable_cons (hq : p.children[i]? = some q) :
    p.CoSelectable (i :: path) (i :: path') ↔ q.CoSelectable path path' := by
  have hne : i :: path ≠ i :: path' ↔ path ≠ path' := by
    rw [ne_eq, List.cons.injEq, and_iff_right rfl]
  constructor
  · rintro ⟨h, hchoice⟩
    rw [commonPrefix_cons, at?_cons hq] at hchoice
    exact ⟨hne.mp h, hchoice⟩
  · rintro ⟨h, hchoice⟩
    rw [← at?_cons hq, ← commonPrefix_cons] at hchoice
    exact ⟨hne.mpr h, hchoice⟩

/-- Two places that capture in one match are in one child, or in two that capture together, or one
of them is the root. -/
theorem selectsTwice_iff (hp : p.isNegation = false) :
    p.SelectsTwice key ↔
      (∃ q ∈ p.children, q.SelectsTwice key) ∨
      ((∃ inner, p = select key inner) ∧ ∃ q ∈ p.children, q.Selects key) ∨
      (p.isChoice = false ∧ ¬ p.children.Pairwise fun q r => q.Selects key → ¬ r.Selects key) := by
  constructor
  · rintro ⟨path, path', h, h', hco⟩
    cases path with
    | nil =>
        cases path' with
        | nil => exact absurd rfl hco.ne
        | cons j path' =>
            obtain ⟨q, hq, -, hlive⟩ := exists_child_of_live h'
            exact .inr (.inl ⟨live_nil.mp h, q, List.mem_of_getElem? hq, path', hlive⟩)
    | cons i path =>
        obtain ⟨q, hq, -, hlive⟩ := exists_child_of_live h
        cases path' with
        | nil => exact .inr (.inl ⟨live_nil.mp h', q, List.mem_of_getElem? hq, path, hlive⟩)
        | cons j path' =>
            obtain ⟨r, hr, -, hlive'⟩ := exists_child_of_live h'
            by_cases hij : i = j
            · subst hij
              obtain rfl : q = r := Option.some.inj (hq.symm.trans hr)
              exact .inl ⟨q, List.mem_of_getElem? hq, path, path', hlive, hlive',
                (coSelectable_cons hq).mp hco⟩
            · have hchoice := hco.not_choice
              rw [commonPrefix_cons_of_ne hij] at hchoice
              refine .inr (.inr ⟨hchoice p rfl, fun hpairwise => ?_⟩)
              obtain ⟨hi, rfl⟩ := List.getElem?_eq_some_iff.mp hq
              obtain ⟨hj, rfl⟩ := List.getElem?_eq_some_iff.mp hr
              rw [List.pairwise_iff_getElem] at hpairwise
              rcases Nat.lt_or_gt_of_ne hij with hlt | hlt
              · exact hpairwise i j hi hj hlt ⟨path, hlive⟩ ⟨path', hlive'⟩
              · exact hpairwise j i hj hi hlt ⟨path', hlive'⟩ ⟨path, hlive⟩
  · rintro (⟨q, hq, path, path', h, h', hco⟩ | ⟨hroot, q, hq, path, h⟩ | ⟨hchoice, hpairwise⟩)
    · obtain ⟨i, hi⟩ := List.getElem?_of_mem hq
      exact ⟨i :: path, i :: path', (live_cons hi).mpr ⟨hp, h⟩, (live_cons hi).mpr ⟨hp, h'⟩,
        (coSelectable_cons hi).mpr hco⟩
    · obtain ⟨i, hi⟩ := List.getElem?_of_mem hq
      refine ⟨[], i :: path, live_nil.mpr hroot, (live_cons hi).mpr ⟨hp, h⟩, nofun, ?_⟩
      obtain ⟨inner, rfl⟩ := hroot
      exact fun s hs => Option.some.inj hs ▸ rfl
    · apply Classical.byContradiction
      intro hnot
      refine hpairwise (List.pairwise_iff_getElem.mpr fun i j hi hj hij hqs hrs => hnot ?_)
      exact selectsTwice_of_children hp hchoice (List.getElem?_eq_getElem hi)
        (List.getElem?_eq_getElem hj) (Nat.ne_of_lt hij) hqs hrs

/-- Inside a negation nothing captures, let alone twice. -/
theorem not_selectsTwice_of_isNegation (hp : p.isNegation = true) : ¬ p.SelectsTwice key := by
  rintro ⟨path, -, h, -⟩
  have hroot : p.isNegation = false := h.not_negated [] List.nil_prefix p rfl
  rw [hp] at hroot
  cases hroot

/-- What the census finds captured twice is selected at two places that may both capture. -/
theorem repeats_census (p : Pattern) (k : SelectionKey) :
    p.census.Repeats k ↔ p.SelectsTwice k := by
  induction p using childInduction with
  | h p ih =>
      cases hp : p.isNegation with
      | false =>
          rw [repeats_census_iff hp, selectsTwice_iff hp]
          simp only [and_congr_right_iff.mpr (ih _), mem_keys_iff_selects]
      | true =>
          obtain ⟨q, rfl⟩ : ∃ q, p = not q := by
            cases p <;> first | exact ⟨_, rfl⟩ | cases hp
          exact iff_of_false (Census.not_repeats_empty k) (not_selectsTwice_of_isNegation hp)

/-! ## the rules of selection -/

/-- The census has a name on its list exactly if some name is selected. -/
theorem named_ne_nil_iff : p.census.named ≠ [] ↔ ∃ name, p.Selects (.named name) := by
  have hmem : ∀ name, name ∈ p.census.named ↔ p.Selects (.named name) := fun name =>
    (holds_census p (.named name)).trans (mem_keys_iff_selects p _)
  constructor
  · intro h
    obtain ⟨name, hname⟩ := List.exists_mem_of_ne_nil _ h
    exact ⟨name, (hmem name).mp hname⟩
  · rintro ⟨name, hname⟩
    exact List.ne_nil_of_mem ((hmem name).mpr hname)

/-- The rule that is broken, read off the places: first the one about two anonymous captures, then
the one about mixed captures. -/
theorem fault?_cases (p : Pattern) :
    (p.SelectsTwice .anonymous ∧ p.fault? = some .multipleAnonymousSelections) ∨
    (¬ p.SelectsTwice .anonymous ∧ (p.Selects .anonymous ∧ ∃ name, p.Selects (.named name)) ∧
      p.fault? = some .mixedSelections) ∨
    (¬ p.SelectsTwice .anonymous ∧ ¬ (p.Selects .anonymous ∧ ∃ name, p.Selects (.named name)) ∧
      p.fault? = none) := by
  have htwice : 1 < p.census.anonymous ↔ p.SelectsTwice .anonymous := repeats_census p .anonymous
  have hmixed : 0 < p.census.anonymous ∧ p.census.named ≠ [] ↔
      p.Selects .anonymous ∧ ∃ name, p.Selects (.named name) :=
    and_congr ((holds_census p .anonymous).trans (mem_keys_iff_selects p _)) named_ne_nil_iff
  rw [← htwice, ← hmixed, fault?]
  by_cases h : 1 < p.census.anonymous
  · exact .inl ⟨h, if_pos h⟩
  · by_cases h' : 0 < p.census.anonymous ∧ p.census.named ≠ []
    · exact .inr (.inl ⟨h, h', (if_neg h).trans (if_pos h')⟩)
    · exact .inr (.inr ⟨h, h', (if_neg h).trans (if_neg h')⟩)

/-- **The rules of selection are about pairs of places.**  A pattern is refused for two anonymous
captures iff two anonymous selections may capture in one match.  Otherwise it is refused for mixed
captures iff it selects both without a name and under one, be it in different alternatives.
Otherwise it is accepted, with every name, once, that is selected at two places which may capture in
one match. -/
theorem validate_iff_places (p : Pattern) :
    (p.validate = .error ⟨.multipleAnonymousSelections, none⟩ ↔ p.SelectsTwice .anonymous) ∧
    (p.validate = .error ⟨.mixedSelections, none⟩ ↔
      ¬ p.SelectsTwice .anonymous ∧ p.Selects .anonymous ∧ ∃ name, p.Selects (.named name)) ∧
    ((∃ names, p.validate = .ok names ∧ names.Nodup ∧
        ∀ name, name ∈ names ↔ p.SelectsTwice (.named name)) ↔
      ¬ p.SelectsTwice .anonymous ∧
        ¬ (p.Selects .anonymous ∧ ∃ name, p.Selects (.named name))) := by
  have hnames : ∀ name, name ∈ p.duplicates ↔ p.SelectsTwice (.named name) := fun name =>
    repeats_census p (.named name)
  have hnodup : p.duplicates.Nodup := (nodup_census p).duplicates
  rcases fault?_cases p with ⟨h, hfault⟩ | ⟨h, hmixed, hfault⟩ | ⟨h, hmixed, hfault⟩
  · rw [validate, hfault]
    simp [h]
  · rw [validate, hfault]
    simp [h, hmixed]
  · rw [validate, hfault]
    simp [h, hmixed, hnames, hnodup]

/-- Alternatives may select under one name, but not beside a part that does. -/
example :
    (tuple [any [select (.named "x") none, select (.named "x") (some (kind .null))],
      optional (select (.named "x") none), not (select (.named "y") none)]).validate =
    .ok ["x"] := rfl

end Casebook.Pattern
