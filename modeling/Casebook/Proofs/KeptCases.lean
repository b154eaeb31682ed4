import Casebook.Proofs.DocumentReading

/-!
# Casebook.Proofs.KeptCases

Which of the cases in a document are registered.  A case stands under its kind and a key: its `id`,
or its position if it has none.  Ids and positions are not told apart, so a case can be dropped
although no `id` is written twice.

* `CaseDocument.entries`, `identity` — the written cases, and what each is registered under;
* `IsFirst` — an entry whose identity none before it has; `remaining_eq` says that these are the
  ones that the reading of a document takes into account;
* `NoIdTwice`, `NoIdIsPosition` — what a document has to keep to so that every entry is first;
* `cases_of_registerFrom` — registering leaves the cases of the first entries, in order;
* `registers_each_iff` — and that is every entry iff the document keeps to both.
-/

namespace Casebook

namespace CaseDocument

/-- The cases as they are written, each with its position. -/
def entries (d : CaseDocument) : List (CaseSpec × Nat) := d.cases.zipIdx

/-- What an entry is registered under. -/
def identity (e : CaseSpec × Nat) : CaseId := ⟨e.1.kind, key e.1 e.2⟩

/-- The case of an entry. -/
def built (e : CaseSpec × Nat) : Except DocumentError (Case Json) := e.1.toCase (key e.1 e.2)

/-- No entry before this one has its identity. -/
def IsFirst (all : List (CaseSpec × Nat)) (e : CaseSpec × Nat) : Prop :=
  ∀ e' ∈ all, e'.2 < e.2 → identity e' ≠ identity e

instance (all : List (CaseSpec × Nat)) (e : CaseSpec × Nat) : Decidable (IsFirst all e) :=
  inferInstanceAs (Decidable (∀ e' ∈ all, e'.2 < e.2 → identity e' ≠ identity e))

/-- No `id` is written for two cases of one kind. -/
def NoIdTwice (d : CaseDocument) : Prop :=
  ∀ e ∈ d.entries, ∀ e' ∈ d.entries, e.1.kind = e'.1.kind →
    ∀ id, e.1.id = some id → e'.1.id = some id → e = e'

/-- No `id` is the position, in decimal, of a case of the same kind that has none. -/
def NoIdIsPosition (d : CaseDocument) : Prop :=
  ∀ e ∈ d.entries, ∀ e' ∈ d.entries, e.1.kind = e'.1.kind →
    e'.1.id = none → e.1.id ≠ some (toString e'.2)

variable {d : CaseDocument} {s t : EvaluationState Json} {e e' : CaseSpec × Nat}

/-! ## identities -/

/-- Numerals of different positions differ. -/
theorem eq_of_toString_eq {m n : Nat} (h : toString m = toString n) : m = n := by
  have hdigits : Nat.toDigits 10 m = Nat.toDigits 10 n := by
    rw [Nat.toString_eq_ofList_toDigits, Nat.toString_eq_ofList_toDigits] at h
    exact String.ofList_injective h
  calc m = Nat.ofDigitChars 10 (Nat.toDigits 10 m) 0 := Nat.ofDigitChars_ten_toDigits.symm
    _ = Nat.ofDigitChars 10 (Nat.toDigits 10 n) 0 := by rw [hdigits]
    _ = n := Nat.ofDigitChars_ten_toDigits

/-- At each position stands one entry. -/
theorem eq_of_position_eq (he : e ∈ d.entries) (he' : e' ∈ d.entries) (h : e.2 = e'.2) :
    e = e' := by
  have hspec : some e.1 = some e'.1 := by
    rw [← List.mem_zipIdx_iff_getElem?.mp he, ← List.mem_zipIdx_iff_getElem?.mp he', h]
  exact Prod.ext (Option.some.inj hspec) h

/-- Every entry is first iff no two of them have one identity. -/
theorem forall_isFirst_iff : (∀ e ∈ d.entries, IsFirst d.entries e) ↔
    ∀ e ∈ d.entries, ∀ e' ∈ d.entries, identity e = identity e' → e = e' := by
  constructor
  · intro h e he e' he' hid
    rcases Nat.lt_trichotomy e.2 e'.2 with hlt | heq | hlt
    · exact absurd hid (h e' he' e he hlt)
    · exact eq_of_position_eq he he' heq
    · exact absurd hid.symm (h e he e' he' hlt)
  · intro h e he e' he' hlt hid
    cases h e' he' e he hid
    exact Nat.lt_irrefl _ hlt

/-- Entries share an identity iff they share their kind and the key that is written or stands for
it. -/
theorem identity_eq_iff :
    identity e = identity e' ↔ e.1.kind = e'.1.kind ∧ key e.1 e.2 = key e'.1 e'.2 := by
  rw [identity, identity, CaseId.mk.injEq]

/-- Two entries without an `id` have different positions, so they never have one key. -/
theorem forall_isFirst_iff_ids :
    (∀ e ∈ d.entries, IsFirst d.entries e) ↔ d.NoIdTwice ∧ d.NoIdIsPosition := by
  rw [forall_isFirst_iff]
  constructor
  · intro h
    constructor
    · intro e he e' he' hkind id hid hid'
      refine h e he e' he' (identity_eq_iff.mpr ⟨hkind, ?_⟩)
      rw [key, key, hid, hid']
      rfl
    · intro e he e' he' hkind hnone hid
      have hkey : key e.1 e.2 = key e'.1 e'.2 := by
        rw [key, key, hid, hnone]
        rfl
      cases h e he e' he' (identity_eq_iff.mpr ⟨hkind, hkey⟩)
      cases hnone.symm.trans hid
  · rintro ⟨htwice, hposition⟩ e he e' he' hid
    obtain ⟨hkind, hkey⟩ := identity_eq_iff.mp hid
    rw [key, key] at hkey
    cases hi : e.1.id with
    | some id =>
        cases hi' : e'.1.id with
        | some id' =>
            rw [hi, hi'] at hkey
            exact htwice e he e' he' hkind id hi (hi'.trans (congrArg some hkey.symm))
        | none =>
            rw [hi, hi'] at hkey
            exact absurd (hi.trans (congrArg some hkey)) (hposition e he e' he' hkind hi')
    | none =>
        cases hi' : e'.1.id with
        | some id' =>
            rw [hi, hi'] at hkey
            exact absurd (hi'.trans (congrArg some hkey.symm)) (hposition e' he' e he hkind.symm hi)
        | none =>
            rw [hi, hi'] at hkey
            exact eq_of_position_eq he he' (eq_of_toString_eq hkey)

/-! ## entries behind others -/

/-- The first ones among entries that stand behind others. -/
def firstsAfter (before rest : List (CaseSpec × Nat)) : List (CaseSpec × Nat) :=
  rest.filter fun e => IsFirst (before ++ rest) e

variable {before rest : List (CaseSpec × Nat)} {spec : CaseSpec} {specs : List CaseSpec}
  {position : Nat}

/-- Whether an entry is first is decided by those at smaller positions. -/
theorem isFirst_append_iff (hbefore : ∀ e' ∈ before, e'.2 < e.2)
    (hrest : ∀ e' ∈ rest, e.2 ≤ e'.2) :
    IsFirst (before ++ rest) e ↔ identity e ∉ before.map identity := by
  rw [List.mem_map]
  constructor
  · rintro h ⟨e', he', hid⟩
    exact h e' (List.mem_append_left _ he') (hbefore e' he') hid
  · intro h e' he' hlt hid
    rcases List.mem_append.mp he' with he' | he'
    · exact h ⟨e', he', hid⟩
    · exact Nat.not_le_of_lt hlt (hrest e' he')

/-- The next entry is a first one iff none before it has its identity. -/
theorem firstsAfter_cons (hbefore : ∀ e ∈ before, e.2 < position) (spec : CaseSpec)
    (specs : List CaseSpec) :
    firstsAfter before ((spec :: specs).zipIdx position) =
      if identity (spec, position) ∈ before.map identity then
        firstsAfter (before ++ [(spec, position)]) (specs.zipIdx (position + 1))
      else (spec, position) ::
        firstsAfter (before ++ [(spec, position)]) (specs.zipIdx (position + 1)) := by
  have hrest : ∀ e ∈ (spec :: specs).zipIdx position, position ≤ e.2 :=
    fun e he => List.le_snd_of_mem_zipIdx he
  have hfirst : IsFirst (before ++ (spec :: specs).zipIdx position) (spec, position) ↔
      identity (spec, position) ∉ before.map identity := isFirst_append_iff hbefore hrest
  rw [List.zipIdx_cons] at hfirst ⊢
  unfold firstsAfter
  rw [List.append_assoc, List.singleton_append, List.filter_cons]
  simp only [decide_eq_true_eq, hfirst, ite_not]

theorem forall_lt_concat (hbefore : ∀ e ∈ before, e.2 < position) (spec : CaseSpec) :
    ∀ e ∈ before ++ [(spec, position)], e.2 < position + 1 := by
  intro e he
  rcases List.mem_append.mp he with he | he
  · exact Nat.lt_succ_of_lt (hbefore e he)
  · cases List.mem_singleton.mp he
    exact Nat.lt_succ_self position

theorem mem_map_identity_concat {id : CaseId} :
    id ∈ (before ++ [e]).map identity ↔ id = identity e ∨ id ∈ before.map identity := by
  rw [List.map_append, List.mem_append, or_comm, List.map_singleton, List.mem_singleton]

/-- The reading of a document takes the first entries into account. -/
theorem firsts_identified {earlier : List CaseId} (hbefore : ∀ e ∈ before, e.2 < position)
    (hearlier : ∀ id, id ∈ earlier ↔ id ∈ before.map identity) :
    firsts earlier (identified position specs) =
      (firstsAfter before (specs.zipIdx position)).map Prod.fst := by
  induction specs generalizing position before earlier with
  | nil => rfl
  | cons spec specs ih =>
      have hearlier' : ∀ id, id ∈ identity (spec, position) :: earlier ↔
          id ∈ (before ++ [(spec, position)]).map identity := by
        intro id
        rw [mem_map_identity_concat, List.mem_cons, hearlier]
      have htail := ih (forall_lt_concat hbefore spec) hearlier'
      rw [firstsAfter_cons hbefore, identified, List.zipIdx_cons, List.map_cons, firsts]
      simp only [hearlier, apply_ite (List.map Prod.fst), List.map_cons, ← htail]
      rfl

/-- The cases that the reading of a document takes into account are those of the first entries. -/
theorem remaining_eq (d : CaseDocument) :
    d.remaining = (d.entries.filter fun e => IsFirst d.entries e).map Prod.fst := by
  have hnone : ∀ e ∈ ([] : List (CaseSpec × Nat)), e.2 < 0 := nofun
  exact firsts_identified hnone fun id => Iff.rfl

/-! ## registration -/

/-- A registration never disposes of a state. -/
theorem lifecycle_of_register_ok (hlive : s.lifecycle ≠ .disposed) {c : Case Json}
    {r : Registration} (hr : s.register c = (.ok r, t)) : t.lifecycle ≠ .disposed := by
  have ht : (s.call (.register c)).2 = t := congrArg Prod.snd hr
  exact ht ▸ EvaluationState.lifecycle_call_ne_disposed hlive (by simp)

/-- Registering written cases adds those of the first entries. -/
theorem cases_of_registerFrom (hlive : s.lifecycle ≠ .disposed)
    (hbefore : ∀ e ∈ before, e.2 < position)
    (hcontains : ∀ id, s.cases.contains id = true ↔ id ∈ before.map identity)
    (h : registerFrom position s specs = .ok t) :
    t.lifecycle ≠ .disposed ∧ ∃ cs, t.cases.cases = s.cases.cases ++ cs ∧
      (firstsAfter before (specs.zipIdx position)).map built = cs.map .ok := by
  induction specs generalizing position s before with
  | nil =>
      obtain rfl := Except.ok.inj h
      exact ⟨hlive, [], (List.append_nil _).symm, rfl⟩
  | cons spec specs ih =>
      obtain ⟨c, r, s', hc, hr, h⟩ := registerFrom_cons h
      have hid : c.id = identity (spec, position) := CaseSpec.id_of_toCase hc
      have hcontains' : ∀ id, s'.cases.contains id = true ↔
          id ∈ (before ++ [(spec, position)]).map identity := by
        intro id
        rw [contains_of_register_ok hlive hr, mem_map_identity_concat, hcontains, hid]
      obtain ⟨ht, cs, hcs, hmap⟩ :=
        ih (lifecycle_of_register_ok hlive hr) (forall_lt_concat hbefore spec) hcontains' h
      refine ⟨ht, ?_⟩
      obtain ⟨-, hcases⟩ := EvaluationState.eq_of_register_ok hlive hr
      rw [firstsAfter_cons hbefore, ← hid]
      by_cases hmem : c.id ∈ before.map identity
      · rw [if_pos ((hcontains c.id).mpr hmem)] at hcases
        rw [if_pos hmem]
        exact ⟨cs, hcases ▸ hcs, hmap⟩
      · rw [if_neg fun h => hmem ((hcontains c.id).mp h)] at hcases
        refine ⟨c :: cs, ?_, ?_⟩
        · rw [hcs, hcases, List.append_assoc]
          rfl
        · rw [if_neg hmem, List.map_cons, hmap, built, hc]
          rfl

/-- The state of a document holds the cases of its first entries, in order. -/
theorem cases_of_toState (h : d.toState = .ok s) :
    (d.entries.filter fun e => IsFirst d.entries e).map built = s.cases.cases.map .ok := by
  obtain ⟨s', hs', rfl⟩ := registerFrom_of_toState h
  have hnone : ∀ e ∈ ([] : List (CaseSpec × Nat)), e.2 < 0 := nofun
  have hempty : ∀ id, (.new d.config : EvaluationState Json).cases.contains id = true ↔
      id ∈ ([] : List (CaseSpec × Nat)).map identity := by
    simp [CaseList.contains, EvaluationState.new]
  obtain ⟨hlive, cs, hcs, hmap⟩ :=
    cases_of_registerFrom (by simp [EvaluationState.new]) hnone hempty hs'
  have hcases : s'.cases.cases = cs := hcs
  rw [← hcases] at hmap
  cases d.subject with
  | none => exact hmap
  | some j =>
      simp only [EvaluationState.setSubject_of_live hlive]
      exact hmap

/-- **Every written case is registered iff no two have one key.**  The cases of a state that a
document describes are those of its first entries, in their order.  They are those of all entries
iff no `id` is written twice for a kind and none is the position of a case of its kind without
one. -/
theorem registers_each_iff (h : d.toState = .ok s) :
    (d.entries.filter fun e => IsFirst d.entries e).map built = s.cases.cases.map .ok ∧
      (d.entries.map built = s.cases.cases.map .ok ↔ d.NoIdTwice ∧ d.NoIdIsPosition) := by
  have hcases := cases_of_toState h
  refine ⟨hcases, ?_⟩
  rw [← forall_isFirst_iff_ids, ← hcases]
  constructor
  · intro hall e he
    have hlength := congrArg List.length hall
    rw [List.length_map, List.length_map, eq_comm, List.length_filter_eq_length_iff] at hlength
    exact of_decide_eq_true (hlength e he)
  · intro hall
    rw [List.filter_eq_self.mpr fun e he => decide_eq_true (hall e he)]

/-- An `id` that is the position of a case of another kind, and one that is its own position. -/
def numbered : CaseDocument where
  cases := [
    { kind := .withPatterns, pattern := some (.string "a") },
    { kind := .whenHolds, id := some "0", predicate := some (.string "b") },
    { kind := .withPatterns, id := some "2", pattern := some (.string "c") },
    { kind := .withPatterns, pattern := some (.string "d") }]

/-- Ids may look like positions as long as they are not those of cases without an id and of the same
kind. -/
theorem registers_each_iff_numbered :
    ∃ s, numbered.toState = .ok s ∧ numbered.NoIdTwice ∧ numbered.NoIdIsPosition ∧
      numbered.entries.map built = s.cases.cases.map .ok ∧ s.cases.cases.length = 4 := by
  have hok : numbered.toState.isOk = true := by decide +kernel
  cases h : numbered.toState with
  | error e =>
      rw [h] at hok
      cases hok
  | ok s =>
      have hfirst : ∀ e ∈ numbered.entries, IsFirst numbered.entries e := by decide +kernel
      obtain ⟨htwice, hposition⟩ := forall_isFirst_iff_ids.mp hfirst
      have hall := (registers_each_iff h).2.mpr ⟨htwice, hposition⟩
      have hlength := congrArg List.length hall
      rw [List.length_map, List.length_map] at hlength
      exact ⟨s, rfl, htwice, hposition, hall, hlength.symm⟩

/-- An `id` that is the position of the case before it. -/
def positionTaken : CaseDocument where
  subject := some (.string "b")
  cases := [
    { kind := .withPatterns, pattern := some (.string "a"), result := some (.string "first") },
    { kind := .withPatterns, id := some "0", pattern := some (.string "b")
      result := some (.string "second") }]

/-- Only one `id` is written, and yet the case under it is not registered. -/
theorem dropped_without_repeated_id :
    positionTaken.NoIdTwice ∧ ∃ s, positionTaken.toState = .ok s ∧
      s.cases.cases.length = 1 ∧ ¬ positionTaken.entries.map built = s.cases.cases.map .ok := by
  constructor
  · intro e he e' he' hkind id hid hid'
    simp only [entries, positionTaken, List.zipIdx_cons, List.zipIdx_nil, List.mem_cons,
      List.not_mem_nil, or_false] at he he'
    have hids : e.1.id = e'.1.id := hid.trans hid'.symm
    rcases he with rfl | rfl <;> rcases he' with rfl | rfl <;> first | rfl | cases hids
  · have hlength : (positionTaken.toState.toOption.map fun s => s.cases.cases.length) = some 1 := by
      decide +kernel
    cases h : positionTaken.toState with
    | error e =>
        rw [h] at hlength
        cases hlength
    | ok s =>
        rw [h] at hlength
        have hone : s.cases.cases.length = 1 := Option.some.inj hlength
        refine ⟨s, rfl, hone, fun hall => ?_⟩
        have htwo := congrArg List.length hall
        rw [List.length_map, List.length_map, hone] at htwo
        cases htwo

end CaseDocument

end Casebook
