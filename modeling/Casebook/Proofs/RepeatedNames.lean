import Casebook.Proofs.Children
import Casebook.Proofs.SelectionRules

/-!
# Casebook.Proofs.RepeatedNames

Which keys a census finds captured twice.

* `mem_duplicates_together`, `mem_duplicates_either` — parts that capture together repeat the names
  they share, alternatives only those that one of them repeats;
* `Census.Nodup` — every name is listed once;
* `Census.Repeats` — the keys captured twice, with an equation for each operation;
* `Pattern.repeats_census_iff` — the same by way of the children of a pattern;
* `Census.NoRepeats` — no key is captured twice;
* `Pattern.noRepeats_of_mem_children`, `apart_children` — then none is in a child, and children that
  capture together have no key in common;
* `noRepeats_of_validate` — what the rules promise when no name is reported.
-/

namespace Casebook

namespace Census

variable {c part : Census} {name n : String}

/-! ## reported names -/

theorem mem_duplicates_addDuplicate :
    n ∈ (c.addDuplicate name).duplicates ↔ n ∈ c.duplicates ∨ n = name := by
  unfold addDuplicate
  split
  case isTrue h => exact ⟨.inl, fun hn => hn.elim id fun he => he ▸ h⟩
  case isFalse => simp

/-- A name that is added is reported if it was on the list before. -/
theorem mem_duplicates_addNamed :
    n ∈ (c.addNamed name).duplicates ↔ n ∈ c.duplicates ∨ (n = name ∧ n ∈ c.named) := by
  unfold addNamed
  split
  case isTrue h =>
      rw [mem_duplicates_addDuplicate]
      exact or_congr_right ⟨fun he => ⟨he, he ▸ h⟩, And.left⟩
  case isFalse h =>
      refine ⟨.inl, fun hn => hn.elim id fun hn => absurd hn.2 ?_⟩
      rwa [hn.1]

/-- Names that are reported one after the other come on top of those reported before. -/
theorem mem_duplicates_foldl_addDuplicate (names : List String) (c : Census) :
    n ∈ (names.foldl addDuplicate c).duplicates ↔ n ∈ c.duplicates ∨ n ∈ names := by
  induction names generalizing c with
  | nil => simp
  | cons name names ih =>
      rw [List.foldl_cons, ih, mem_duplicates_addDuplicate, List.mem_cons, or_assoc]

/-- Names added one after the other are repeated if they were there before. -/
theorem mem_duplicates_foldl_addNamed {names : List String} (hnames : names.Nodup) (c : Census) :
    n ∈ (names.foldl addNamed c).duplicates ↔ n ∈ c.duplicates ∨ (n ∈ names ∧ n ∈ c.named) := by
  induction names generalizing c with
  | nil => simp
  | cons name names ih =>
      obtain ⟨hname, hnames⟩ := List.nodup_cons.mp hnames
      have hnamed : n ∈ (c.addNamed name).named ↔ n ∈ c.named ∨ n = name := by
        have h := holds_addNamed c name (.named n)
        rwa [SelectionKey.named.injEq] at h
      rw [List.foldl_cons, ih hnames, mem_duplicates_addNamed, hnamed, List.mem_cons]
      -- the name just added is not among those that follow
      have hne : n ∈ names → n ≠ name := fun hn he => hname (he ▸ hn)
      grind

/-- The names of an alternative are never reported, however often they occur. -/
theorem duplicates_foldl_addAlternative (names : List String) (c : Census) :
    (names.foldl addAlternative c).duplicates = c.duplicates := by
  induction names generalizing c with
  | nil => rfl
  | cons name names ih =>
      rw [List.foldl_cons, ih, addAlternative]
      split <;> rfl

/-- Of parts that capture together, the names are reported that one of them reports, and those that
both list. -/
theorem mem_duplicates_together (hpart : part.named.Nodup) :
    n ∈ (c.together part).duplicates ↔
      n ∈ c.duplicates ∨ n ∈ part.duplicates ∨ (n ∈ c.named ∧ n ∈ part.named) := by
  rw [together, mem_duplicates_foldl_addDuplicate, mem_duplicates_foldl_addNamed hpart]
  grind

/-- Of alternatives, only the names are reported that one of them reports. -/
theorem mem_duplicates_either :
    n ∈ (c.either part).duplicates ↔ n ∈ c.duplicates ∨ n ∈ part.duplicates := by
  rw [either, mem_duplicates_foldl_addDuplicate, duplicates_foldl_addAlternative]

/-! ## anonymous captures -/

/-- Names do not change the number of anonymous captures. -/
theorem anonymous_foldl {add : Census → String → Census}
    (h : ∀ c name, (add c name).anonymous = c.anonymous) (names : List String) (c : Census) :
    (names.foldl add c).anonymous = c.anonymous := by
  induction names generalizing c with
  | nil => rfl
  | cons name names ih => rw [List.foldl_cons, ih, h]

theorem anonymous_addDuplicate (c : Census) (name : String) :
    (c.addDuplicate name).anonymous = c.anonymous := by
  unfold addDuplicate
  split <;> rfl

theorem anonymous_addNamed (c : Census) (name : String) :
    (c.addNamed name).anonymous = c.anonymous := by
  unfold addNamed
  split
  · exact anonymous_addDuplicate c name
  · rfl

theorem anonymous_addAlternative (c : Census) (name : String) :
    (c.addAlternative name).anonymous = c.anonymous := by
  unfold addAlternative
  split <;> rfl

/-- Parts that capture together add up their anonymous captures. -/
theorem anonymous_together (c part : Census) :
    (c.together part).anonymous = c.anonymous + part.anonymous := by
  rw [together, anonymous_foldl anonymous_addDuplicate, anonymous_foldl anonymous_addNamed]

/-- Of alternatives, the one with the most anonymous captures counts. -/
theorem anonymous_either (c part : Census) :
    (c.either part).anonymous = max c.anonymous part.anonymous := by
  rw [either, anonymous_foldl anonymous_addDuplicate, anonymous_foldl anonymous_addAlternative]

/-! ## names are listed once -/

/-- Each of the two lists has every name once. -/
structure Nodup (c : Census) : Prop where
  named : c.named.Nodup
  duplicates : c.duplicates.Nodup

theorem nodup_empty : ({} : Census).Nodup := ⟨List.nodup_nil, List.nodup_nil⟩

theorem nodup_addDuplicate (h : c.Nodup) (name : String) : (c.addDuplicate name).Nodup := by
  unfold addDuplicate
  split
  case isTrue => exact h
  case isFalse hname => exact ⟨h.named, Pattern.nodup_concat h.duplicates hname⟩

theorem nodup_addNamed (h : c.Nodup) (name : String) : (c.addNamed name).Nodup := by
  unfold addNamed
  split
  case isTrue => exact nodup_addDuplicate h name
  case isFalse hname => exact ⟨Pattern.nodup_concat h.named hname, h.duplicates⟩

theorem nodup_addAlternative (h : c.Nodup) (name : String) : (c.addAlternative name).Nodup := by
  unfold addAlternative
  split
  case isTrue => exact h
  case isFalse hname => exact ⟨Pattern.nodup_concat h.named hname, h.duplicates⟩

/-- Names that are added one after the other keep the lists free of doubles, if each of them
does. -/
theorem nodup_foldl {add : Census → String → Census}
    (hadd : ∀ {c : Census}, c.Nodup → ∀ name, (add c name).Nodup) (names : List String)
    (h : c.Nodup) : (names.foldl add c).Nodup := by
  induction names generalizing c with
  | nil => exact h
  | cons name names ih => exact ih (hadd h name)

/-- Counting a part that captures together with others lists no name twice. -/
theorem nodup_together (h : c.Nodup) (part : Census) : (c.together part).Nodup :=
  nodup_foldl nodup_addDuplicate _ (nodup_foldl nodup_addNamed _ ⟨h.named, h.duplicates⟩)

/-- Counting an alternative lists no name twice. -/
theorem nodup_either (h : c.Nodup) (part : Census) : (c.either part).Nodup :=
  nodup_foldl nodup_addDuplicate _ (nodup_foldl nodup_addAlternative _ ⟨h.named, h.duplicates⟩)

theorem nodup_record (h : c.Nodup) (key : SelectionKey) : (c.record key).Nodup := by
  cases key with
  | anonymous => exact ⟨h.named, h.duplicates⟩
  | named name => exact nodup_addNamed h name

/-! ## keys captured twice -/

/-- Whether one match can capture twice under a key. -/
def Repeats (c : Census) : SelectionKey → Prop
  | .anonymous => 1 < c.anonymous
  | .named name => name ∈ c.duplicates

theorem not_repeats_empty (k : SelectionKey) : ¬ ({} : Census).Repeats k := by
  cases k <;> simp [Repeats]

/-- Parts that capture together repeat what one of them repeats, and the keys that both hold. -/
theorem repeats_together (hpart : part.named.Nodup) (k : SelectionKey) :
    (c.together part).Repeats k ↔ c.Repeats k ∨ part.Repeats k ∨ (c.Holds k ∧ part.Holds k) := by
  cases k with
  | anonymous =>
      simp only [Repeats, Holds, anonymous_together]
      omega
  | named name => exact mem_duplicates_together hpart

/-- Alternatives repeat only what one of them repeats. -/
theorem repeats_either (k : SelectionKey) :
    (c.either part).Repeats k ↔ c.Repeats k ∨ part.Repeats k := by
  cases k with
  | anonymous =>
      simp only [Repeats, anonymous_either]
      omega
  | named name => exact mem_duplicates_either

/-- A selection repeats its key if the key is held already. -/
theorem repeats_record (key k : SelectionKey) :
    (c.record key).Repeats k ↔ c.Repeats k ∨ (k = key ∧ c.Holds k) := by
  cases key with
  | anonymous =>
      cases k with
      | anonymous =>
          simp only [record, Repeats, Holds, true_and]
          omega
      | named n => simp [record, Repeats]
  | named name =>
      cases k with
      | anonymous => simp [record, Repeats, anonymous_addNamed]
      | named n =>
          rw [SelectionKey.named.injEq]
          exact mem_duplicates_addNamed

/-- No key is captured twice. -/
structure NoRepeats (c : Census) : Prop where
  anonymous_le : c.anonymous ≤ 1
  duplicates_eq : c.duplicates = []

/-- A census is without repeats exactly if it repeats no key. -/
theorem noRepeats_iff : c.NoRepeats ↔ ∀ k, ¬ c.Repeats k := by
  constructor
  · rintro ⟨ha, hd⟩ k
    cases k with
    | anonymous => exact Nat.not_lt.mpr ha
    | named name => simp [Repeats, hd]
  · intro h
    exact ⟨Nat.not_lt.mp (h .anonymous),
      List.eq_nil_iff_forall_not_mem.mpr fun name => h (.named name)⟩

end Census

namespace Pattern

/-! ## the census of a pattern -/

mutual

/-- The census of a pattern lists every name once, which lets two lists be compared name by name. -/
theorem nodup_census (p : Pattern) : p.census.Nodup := by
  cases p with
  | select key inner =>
      cases inner with
      | none => exact Census.nodup_record Census.nodup_empty key
      | some p => exact Census.nodup_record (nodup_census p) key
  | object fields => exact nodup_censusFields fields Census.nodup_empty
  | tuple ps | all ps => exact nodup_censusTogether ps Census.nodup_empty
  | any ps => exact nodup_censusEither ps Census.nodup_empty
  | each p | optional p => exact nodup_census p
  | literal _ | wildcard | not _ | kind _ | when _ => exact Census.nodup_empty

theorem nodup_censusFields (fields : List (String × Pattern)) {total : Census}
    (h : total.Nodup) : (censusFields total fields).Nodup := by
  cases fields with
  | nil => exact h
  | cons f fields =>
      obtain ⟨name, p⟩ := f
      exact nodup_censusFields fields (Census.nodup_together h p.census)

theorem nodup_censusTogether (ps : List Pattern) {total : Census} (h : total.Nodup) :
    (censusTogether total ps).Nodup := by
  cases ps with
  | nil => exact h
  | cons p ps => exact nodup_censusTogether ps (Census.nodup_together h p.census)

theorem nodup_censusEither (ps : List Pattern) {total : Census} (h : total.Nodup) :
    (censusEither total ps).Nodup := by
  cases ps with
  | nil => exact h
  | cons p ps => exact nodup_censusEither ps (Census.nodup_either h p.census)

end

/-! ## parts -/

/-- Fields are counted as their patterns are that capture together, whatever the fields are
called. -/
theorem censusFields_eq (total : Census) (fields : List (String × Pattern)) :
    censusFields total fields = censusTogether total (fields.map Prod.snd) := by
  induction fields generalizing total with
  | nil => rfl
  | cons f fields ih => exact ih (total.together f.2.census)

/-- Two patterns without a common key. -/
def Apart (p q : Pattern) : Prop := ∀ k ∈ p.keys, k ∉ q.keys

/-- Parts that capture together repeat what one of them repeats, and what two of them share, be it
one counted before. -/
theorem repeats_censusTogether (ps : List Pattern) (total : Census) (k : SelectionKey) :
    (censusTogether total ps).Repeats k ↔
      total.Repeats k ∨ (∃ p ∈ ps, p.census.Repeats k) ∨ (total.Holds k ∧ ∃ p ∈ ps, k ∈ p.keys) ∨
        ¬ ps.Pairwise fun p q => k ∈ p.keys → k ∉ q.keys := by
  induction ps generalizing total with
  | nil => simp [censusTogether]
  | cons p ps ih =>
      rw [censusTogether, ih, Census.repeats_together (nodup_census p).named, Census.holds_together,
        holds_census, List.pairwise_cons]
      simp only [List.mem_cons, or_and_right, exists_or, exists_eq_left]
      grind

/-- Alternatives repeat what one of them repeats. -/
theorem repeats_censusEither (ps : List Pattern) (total : Census) (k : SelectionKey) :
    (censusEither total ps).Repeats k ↔ total.Repeats k ∨ ∃ p ∈ ps, p.census.Repeats k := by
  induction ps generalizing total with
  | nil => simp [censusEither]
  | cons p ps ih =>
      rw [censusEither, ih, Census.repeats_either, or_assoc]
      simp only [List.mem_cons, or_and_right, exists_or, exists_eq_left]

/-- The census by way of the children: what they repeat, what a selection shares with those inside
it, and what children share that capture together. -/
theorem repeats_census_iff (hp : p.isNegation = false) (k : SelectionKey) :
    p.census.Repeats k ↔
      (∃ q ∈ p.children, q.census.Repeats k) ∨
      ((∃ inner, p = select k inner) ∧ ∃ q ∈ p.children, k ∈ q.keys) ∨
      (p.isChoice = false ∧ ¬ p.children.Pairwise fun q r => k ∈ q.keys → k ∉ r.keys) := by
  have hempty := Census.not_repeats_empty k
  cases p with
  | select key inner =>
      cases inner with
      | none =>
          simp [census, Census.repeats_record, hempty, Census.not_holds_empty, children]
      | some q =>
          rw [census, Census.repeats_record, holds_census]
          simp [children, isChoice, eq_comm]
  | object fields =>
      rw [census, censusFields_eq, repeats_censusTogether]
      simp [hempty, Census.not_holds_empty, children, isChoice]
  | tuple ps | all ps =>
      rw [census, repeats_censusTogether]
      simp [hempty, Census.not_holds_empty, children, isChoice]
  | any ps =>
      rw [census, repeats_censusEither]
      simp [hempty, children, isChoice]
  | each q | optional q => simp [census, children]
  | literal _ | wildcard | kind _ | when _ => simp [census, hempty, children]
  | not _ => cases hp

/-! ## no key captured twice -/

variable {p : Pattern}

/-- If a pattern captures no key twice, none of its children does, unless it is a negation. -/
theorem noRepeats_of_mem_children (hp : p.isNegation = false) (h : p.census.NoRepeats) :
    ∀ q ∈ p.children, q.census.NoRepeats := by
  simp only [Census.noRepeats_iff, repeats_census_iff hp, not_or] at h ⊢
  exact fun q hq k hk => (h k).1 ⟨q, hq, hk⟩

/-- A selection that captures no key twice does not find its own key inside it. -/
theorem not_mem_keys_of_noRepeats {key : SelectionKey} {q : Pattern}
    (h : (select key (some q)).census.NoRepeats) : key ∉ q.keys := by
  intro hkey
  refine Census.noRepeats_iff.mp h key ((repeats_census_iff rfl key).mpr (.inr (.inl ?_)))
  exact ⟨⟨_, rfl⟩, q, List.mem_cons_self, hkey⟩

/-- Children that capture together without repetition have no key in common. -/
theorem apart_children (hp : p.isNegation = false) (hc : p.isChoice = false)
    (h : p.census.NoRepeats) : p.children.Pairwise Apart := by
  simp only [Census.noRepeats_iff, repeats_census_iff hp, not_or, not_and, Classical.not_not] at h
  -- two children are apart under every key, so they are apart
  rw [List.pairwise_iff_getElem]
  intro i j hi hj hij k
  exact List.pairwise_iff_getElem.mp ((h k).2.2 hc) i j hi hj hij

/-- A pattern that keeps the rules and repeats no name repeats no key. -/
theorem noRepeats_of_validate {p : Pattern} (h : p.validate = .ok []) : p.census.NoRepeats := by
  obtain ⟨hfault, hnames⟩ := validate_eq_ok_iff.mp h
  refine ⟨?_, hnames⟩
  rw [fault?] at hfault
  split at hfault
  case isTrue => cases hfault
  case isFalse hle => omega

end Pattern

end Casebook
