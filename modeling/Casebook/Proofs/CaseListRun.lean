import Casebook.Proofs.Registration

/-!
# Casebook.Proofs.CaseListRun

Runs of a list of cases: any registrations and clearings, one after the other, whatever they are
answered.

* `CaseList.verdict` — what a registration is answered, in view of all the cases that are kept;
* `kept` — of some cases registered one after the other, those that are answered `added`;
* `WellFormed` — identities are distinct, nothing follows a fallback, and a strict list captures no
  name twice; `wellFormed_call` and `wellFormed_run` say that it always holds;
* `register_eq_verdict` — registration looks at the last case only, and still gives the verdict;
* `admits_iff_verdict`, `kept_eq_accepted` — the rules of admission are the verdict in short, so
  that both readings keep the same cases;
* `run_eq_kept` — all of it, after any calls.
-/

namespace Casebook.CaseList

universe u

/-- A change of a list. -/
inductive Call (α : Type u) where
  | register (c : Case α)
  | clear

variable {α : Type u}

/-- A list without cases. -/
def new (config : Config) : CaseList α := { config }

/-- The list after a call, whatever the call is answered. -/
def call (l : CaseList α) : Call α → CaseList α
  | .register c => (l.register c).2
  | .clear => l.clear

/-- The list after some calls. -/
def run (l : CaseList α) (calls : List (Call α)) : CaseList α := calls.foldl call l

@[simp] theorem run_cons (l : CaseList α) (c : Call α) (calls : List (Call α)) :
    l.run (c :: calls) = (l.call c).run calls := rfl

/-! ## what is kept -/

/-- What a registration is answered while these cases are kept: its identity may be taken, or a
fallback may be there, or it may capture a name twice where that is forbidden. -/
def verdict (config : Config) (kept : List (Case α)) (c : Case α) :
    Except MatchError Registration :=
  if ∃ d ∈ kept, d.id = c.id then .ok .duplicate
  else match kept.find? Case.isFallback with
    | some f => .error ⟨.fallbackNotLast f.id.label c.id.label, some c.id.label⟩
    | none =>
        match c.duplicates.head? with
        | some name =>
            if config.strictSelections then .error ⟨.duplicateSelection name, some c.id.label⟩
            else .ok .added
        | none => .ok .added

/-- One more registration. -/
def keep (config : Config) (kept : List (Case α)) (c : Case α) : List (Case α) :=
  match verdict config kept c with
  | .ok .added => kept ++ [c]
  | _ => kept

/-- The cases that are kept of some registered one after the other. -/
def kept (config : Config) (cases : List (Case α)) : List (Case α) :=
  cases.foldl (keep config) []

/-- One more call, after which these cases were registered and not dropped. -/
def note (cases : List (Case α)) : Call α → List (Case α)
  | .register c => cases ++ [c]
  | .clear => []

/-- The cases registered since the last clearing, kept or not. -/
def registeredSinceClear (calls : List (Call α)) : List (Case α) := calls.foldl note []

theorem kept_concat (config : Config) (cases : List (Case α)) (c : Case α) :
    kept config (cases ++ [c]) = keep config (kept config cases) c := by
  rw [kept, List.foldl_append]
  rfl

/-! ## well-formed lists -/

/-- What holds of every list. -/
structure WellFormed (l : CaseList α) : Prop where
  ids_nodup : (l.cases.map Case.id).Nodup
  fallbackLast : FallbackLast l.cases
  strict : l.config.strictSelections = true → ∀ c ∈ l.cases, c.duplicates = []

variable {l : CaseList α} {c : Case α}

/-- An empty list is well-formed. -/
theorem wellFormed_clear (l : CaseList α) : WellFormed l.clear where
  ids_nodup := List.nodup_nil
  fallbackLast := fallbackLast_nil
  strict _ c hc := by cases hc

/-- An identity is taken iff a case has it. -/
theorem contains_iff {id : CaseId} : l.contains id = true ↔ ∃ d ∈ l.cases, d.id = id := by
  rw [contains, List.any_eq_true]
  simp only [beq_iff_eq]

/-- The last case tells whether there is a fallback at all. -/
theorem fallback?_eq (h : FallbackLast l.cases) :
    l.fallback? = (l.cases.find? Case.isFallback).map Case.id := by
  unfold fallback?
  cases hfind : l.cases.find? Case.isFallback with
  | some f =>
      have hf : f.isFallback = true := List.find?_some hfind
      rw [getLast?_of_fallbackLast h (List.mem_of_find?_eq_some hfind) hf, Option.map_some]
      exact if_pos hf
  | none =>
      rw [Option.map_none]
      cases hlast : l.cases.getLast? with
      | none => rfl
      | some last =>
          exact if_neg (List.find?_eq_none.mp hfind last (List.mem_of_getLast? hlast))

/-- Registration looks at the last case only, and still answers in view of all the cases. -/
theorem register_eq_verdict (h : FallbackLast l.cases) (c : Case α) :
    (l.register c).1 = verdict l.config l.cases c := by
  unfold verdict
  by_cases hid : ∃ d ∈ l.cases, d.id = c.id
  · rw [register, if_pos (contains_iff.mpr hid), if_pos hid]
  · rw [register, if_neg (mt contains_iff.mp hid), if_neg hid, rejection?, fallback?_eq h]
    cases l.cases.find? Case.isFallback with
    | some f => rfl
    | none =>
        cases c.duplicates with
        | nil => rfl
        | cons name names => cases l.config.strictSelections <;> rfl

/-! ## the rules of admission and the verdict -/

/-- The rules of admission are the verdict in short: what they admit is answered `added`, and
nothing else is. -/
theorem admits_iff_verdict {config : Config} {cases : List (Case α)} (h : FallbackLast cases)
    (c : Case α) : admits config cases c = true ↔ verdict config cases c = .ok .added := by
  have hverdict : (register ⟨config, cases⟩ c).1 = verdict config cases c :=
    register_eq_verdict h c
  rw [← hverdict, register_eq_added_iff]

/-- One more registration, by the rules of admission. -/
theorem keep_eq {config : Config} {cases : List (Case α)} (h : FallbackLast cases) (c : Case α) :
    keep config cases c = if admits config cases c then cases ++ [c] else cases := by
  have hiff : admits config cases c = true ↔ verdict config cases c = .ok .added :=
    admits_iff_verdict h c
  unfold keep
  split
  case h_1 hadded => rw [if_pos (hiff.mpr hadded)]
  case h_2 hnot => rw [if_neg fun ha => hnot (hiff.mp ha)]

/-- Whether by their answers or by the rules, the same cases are kept. -/
theorem kept_eq_accepted (config : Config) (cases : List (Case α)) :
    kept config cases = accepted config cases := by
  induction cases using List.reverseRecOn with
  | nil => rfl
  | append_singleton cases c ih =>
      rw [kept_concat, accepted_concat, ih, keep_eq (fallbackLast_accepted config cases)]

/-! ## well-formed lists are kept so -/

/-- What is admitted has an identity of its own, stands behind no fallback, and breaks no rule on
names. -/
theorem wellFormed_register (h : WellFormed l) (c : Case α) : WellFormed (l.register c).2 := by
  rw [list_register]
  split
  case isTrue ha =>
      have hrules := ha
      rw [admits, Bool.and_eq_true, Bool.and_eq_true, List.all_eq_true] at hrules
      obtain ⟨⟨hid, -⟩, hstrict⟩ := hrules
      refine ⟨?_, fallbackLast_concat h.fallbackLast ha, fun hs d hd => ?_⟩
      · rw [List.map_append, List.nodup_append]
        refine ⟨h.ids_nodup, List.pairwise_singleton _ _, fun id hmem id' hmem' => ?_⟩
        obtain ⟨d, hd, rfl⟩ := List.mem_map.mp hmem
        rw [List.mem_singleton.mp hmem']
        exact bne_iff_ne.mp (hid d hd)
      · rcases List.mem_append.mp hd with hd | hd
        · exact h.strict hs d hd
        · have hs' : l.config.strictSelections = true := hs
          rw [List.mem_singleton.mp hd]
          simpa [hs'] using hstrict
  case isFalse => exact h

theorem wellFormed_call (h : WellFormed l) (c : Call α) : WellFormed (l.call c) := by
  cases c with
  | register c => exact wellFormed_register h c
  | clear => exact wellFormed_clear l

/-- A list is well-formed after any calls, since each of them keeps it so. -/
theorem wellFormed_run (h : WellFormed l) (calls : List (Call α)) : WellFormed (l.run calls) := by
  induction calls generalizing l with
  | nil => exact h
  | cons c calls ih => exact ih (wellFormed_call h c)

/-! ## runs -/

theorem config_call (l : CaseList α) (c : Call α) : (l.call c).config = l.config := by
  cases c with
  | register c =>
      rw [call, list_register]
      split <;> rfl
  | clear => rfl

/-- Options are never changed. -/
theorem config_run (l : CaseList α) (calls : List (Call α)) :
    (l.run calls).config = l.config := by
  induction calls generalizing l with
  | nil => rfl
  | cons c calls ih => rw [run_cons, ih, config_call]

/-- A call keeps a list at what is accepted of the cases registered before and with it. -/
theorem cases_call {cases : List (Case α)} (hcases : l.cases = accepted l.config cases)
    (c : Call α) : (l.call c).cases = accepted l.config (note cases c) := by
  cases c with
  | register c =>
      rw [call, note, accepted_concat, ← hcases, list_register]
      split <;> rfl
  | clear => rfl

/-- After any calls a list holds what is accepted of the cases registered since it was last
cleared. -/
theorem cases_run {cases : List (Case α)} (hcases : l.cases = accepted l.config cases)
    (calls : List (Call α)) :
    (l.run calls).cases = accepted l.config (calls.foldl note cases) := by
  induction calls generalizing l cases with
  | nil => exact hcases
  | cons c calls ih =>
      have hc : (l.call c).cases = accepted (l.call c).config (note cases c) := by
        rw [config_call]
        exact cases_call hcases c
      rw [run_cons, ih hc, config_call]
      rfl

/-! ## failed registrations -/

/-- A registration that fails changes nothing, and its identity was not taken. -/
theorem register_of_error {e : MatchError} (he : (l.register c).1 = .error e) :
    (l.register c).2 = l ∧ l.contains c.id = false := by
  unfold register at he ⊢
  split at he
  case isTrue => cases he
  case isFalse hc =>
      rw [if_neg hc]
      cases hr : l.rejection? c with
      | some e => exact ⟨rfl, Bool.eq_false_iff.mpr hc⟩
      | none =>
          rw [hr] at he
          cases he

/-- A free identity is never answered with `duplicate`. -/
theorem register_ne_duplicate (h : l.contains c.id = false) :
    (l.register c).1 ≠ .ok .duplicate := by
  rw [register, h]
  cases l.rejection? c <;> simp

/-- A case with a free identity and without faults is added as long as there is no fallback. -/
theorem register_eq_added (h : l.contains c.id = false)
    (hfallback : ∀ f ∈ l.cases, f.isFallback = false) (hd : c.duplicates = []) :
    (l.register c).1 = .ok .added := by
  have hnone : l.fallback? = none := by
    unfold fallback?
    cases hlast : l.cases.getLast? with
    | none => rfl
    | some last =>
        simp only [hfallback last (List.mem_of_getLast? hlast), Bool.false_eq_true, if_false]
  rw [register, h, rejection?, hnone, hd]
  rfl

/-! ## all of it -/

/-- **A list holds what its registrations were answered.**  It consists, in order, of the cases
registered since the last clearing but those that, at their turn, found their identity taken, or
else came after a fallback, or else captured a name twice where that is forbidden.  So identities
are distinct and only the last case is a fallback.  A case that is refused leaves no trace: its
identity is still free. -/
theorem run_eq_kept (config : Config) (calls : List (Call α)) :
    let l := (new config).run calls
    l.cases = kept config (registeredSinceClear calls) ∧
      l.cases.Sublist (registeredSinceClear calls) ∧
      (l.cases.map Case.id).Nodup ∧
      (∀ before f after, l.cases = before ++ f :: after → f.isFallback = true →
        after = [] ∧ ∀ d ∈ before, d.isFallback = false) ∧
      (config.strictSelections = true → ∀ c ∈ l.cases, ∀ p ∈ c.patterns, p.duplicates = []) ∧
      (∀ c, (l.register c).1 = verdict config l.cases c) ∧
      ∀ c e, (l.register c).1 = .error e →
        (l.register c).2 = l ∧
          ∀ d, d.id = c.id →
            ((l.register c).2.register d).1 ≠ .ok .duplicate ∧
              ((∀ f ∈ l.cases, f.isFallback = false) → d.duplicates = [] →
                ((l.register c).2.register d).1 = .ok .added) := by
  intro l
  have hl : WellFormed l := wellFormed_run (wellFormed_clear (new config)) calls
  have hconfig : l.config = config := config_run (new config) calls
  have hnew : (new config : CaseList α).cases = accepted config [] := rfl
  have hcases : l.cases = accepted config (registeredSinceClear calls) := cases_run hnew calls
  refine ⟨hcases.trans (kept_eq_accepted config _).symm, ?_, hl.ids_nodup, ?_, ?_, fun c => ?_, ?_⟩
  · rw [hcases]
    exact accepted_sublist config (registeredSinceClear calls)
  · intro before f after heq hf
    have hlast := hl.fallbackLast
    rw [heq] at hlast
    exact nothing_behind_fallback hlast hf
  · intro hs c hc p hp
    have hd : c.duplicates = [] := hl.strict (hconfig ▸ hs) c hc
    exact List.flatMap_eq_nil_iff.mp hd p hp
  · rw [register_eq_verdict hl.fallbackLast, hconfig]
  · intro c e he
    obtain ⟨hsame, hfree⟩ := register_of_error he
    refine ⟨hsame, fun d hd => ?_⟩
    rw [hsame]
    rw [← hd] at hfree
    exact ⟨register_ne_duplicate hfree, register_eq_added hfree⟩

/-- A case that captures a name twice. -/
def sameTwice : Case Nat where
  id := ⟨.withPatterns, "pair"⟩
  patterns := [.tuple [.select (.named "x") none, .select (.named "x") none]]
  guards := []
  handler _ _ := 1
  valid := by decide

/-- Another case of that identity, with a name for each capture. -/
def twoNames : Case Nat where
  id := ⟨.withPatterns, "pair"⟩
  patterns := [.tuple [.select (.named "x") none, .select (.named "y") none]]
  guards := []
  handler _ _ := 2
  valid := by decide

/-- A fallback. -/
def anything : Case Nat where
  id := ⟨.otherwise, "rest"⟩
  patterns := [.select .anonymous none]
  guards := []
  handler _ _ := 3
  valid := by decide

/-- A case that comes too late. -/
def onTrue : Case Nat where
  id := ⟨.withPatterns, "true"⟩
  patterns := [.literal (.bool true)]
  guards := []
  handler _ _ := 4
  valid := by decide

/-- The identity of a case that is refused goes to another one; behind the fallback only what is
there already is not refused. -/
theorem run_eq_kept_twoNames :
    (∃ l : CaseList Nat, l = (new ⟨false, true⟩).run [.register onTrue, .clear] ∧
      (l.register sameTwice).1 =
        .error ⟨.duplicateSelection "x", some "With.pair"⟩ ∧
      twoNames.id = sameTwice.id ∧ (∀ f ∈ l.cases, f.isFallback = false) ∧
      twoNames.duplicates = [] ∧ ((l.register sameTwice).2.register twoNames).1 = .ok .added) ∧
    ∃ l : CaseList Nat,
      l = (new ⟨false, true⟩).run
        [.register onTrue, .clear, .register sameTwice, .register twoNames, .register anything,
          .register onTrue] ∧
      l.cases = [twoNames] ++ anything :: [] ∧ anything.isFallback = true ∧
      twoNames.isFallback = false ∧ (∀ p ∈ twoNames.patterns, p.duplicates = []) ∧
      (l.register twoNames).1 = .ok .duplicate ∧
      (l.register onTrue).1 =
        .error ⟨.fallbackNotLast "Otherwise.rest" "With.true", some "With.true"⟩ ∧
      (l.register onTrue).2 = l := by
  constructor
  · obtain ⟨-, -, -, -, -, -, herror⟩ :=
      run_eq_kept (α := Nat) ⟨false, true⟩ [.register onTrue, .clear]
    exact ⟨_, rfl, rfl, rfl, by simp [run, call, clear], by decide,
      ((herror sameTwice _ rfl).2 twoNames rfl).2 (by simp [run, call, clear]) (by decide)⟩
  · obtain ⟨-, -, -, hlast, hstrict, hanswer, herror⟩ :=
      run_eq_kept (α := Nat) ⟨false, true⟩
        [.register onTrue, .clear, .register sameTwice, .register twoNames, .register anything,
          .register onTrue]
    exact ⟨_, rfl, rfl, by decide,
      (hlast [twoNames] anything [] rfl (by decide)).2 twoNames List.mem_cons_self,
      hstrict rfl twoNames List.mem_cons_self, (hanswer twoNames).trans rfl,
      (hanswer onTrue).trans rfl, (herror onTrue _ rfl).1⟩

end Casebook.CaseList
