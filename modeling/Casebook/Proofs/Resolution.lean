import Casebook.CaseList

/-!
# Casebook.Proofs.Resolution

What a scan for the first case that takes a subject finds, and that it always points at a case.

* `resolve_eq_some_iff`, `resolve_eq_none_iff` — the first case that takes the subject, with
  nothing before it that does, or no case at all;
* `Case.reading?` — what one case makes of a subject, read off its declaration;
* `run_of_resolve` — a resolution points at a case, and running it gives the first reading.
-/

namespace Casebook

universe u

namespace Case

variable {α : Type u}

/-- What a case makes of a subject: nothing unless every guard holds, else what its handler
gives for the captures of the first alternative that matches. -/
def reading? (c : Case α) (subject : Value) : Option α :=
  if c.guards.all fun guard => guard subject then
    (c.patterns.findSome? fun p => p.match? subject).map fun s => c.handler s subject
  else none

/-- What a case makes of a subject is what it makes of its captures. -/
theorem reading?_eq (c : Case α) (subject : Value) :
    c.reading? subject = (c.match? subject).map fun s => c.run s subject := by
  unfold reading? match?
  cases c.patterns.findSome? fun p => p.match? subject with
  | none => simp
  | some s => split <;> rfl

end Case

namespace CaseSnapshot

variable {α : Type u}

/-- A resolution points at a case that matches while those before it do not, and has its
captures. -/
theorem resolveFrom_eq_some_iff {index : Nat} {subject : Value} {cases : List (Case α)}
    {r : Resolution} :
    resolveFrom index subject cases = some r ↔
      ∃ before c after, cases = before ++ c :: after ∧ r.index = index + before.length ∧
        c.match? subject = some r.selections ∧ ∀ d ∈ before, d.match? subject = none := by
  induction cases generalizing index with
  | nil => simp [resolveFrom]
  | cons c cases ih =>
      rw [resolveFrom]
      constructor
      · intro h
        cases hc : c.match? subject with
        | some s =>
            simp only [hc, Option.some.injEq] at h
            subst h
            exact ⟨[], c, cases, rfl, rfl, hc, by simp⟩
        | none =>
            simp only [hc] at h
            obtain ⟨before, d, after, rfl, hi, hd, hb⟩ := ih.mp h
            refine ⟨c :: before, d, after, rfl, ?_, hd, ?_⟩
            · rw [hi, List.length_cons]
              omega
            · intro e he
              rcases List.mem_cons.mp he with rfl | he
              · exact hc
              · exact hb e he
      · rintro ⟨before, d, after, hcases, hi, hd, hb⟩
        cases before with
        | nil =>
            obtain ⟨rfl, rfl⟩ := List.cons.inj hcases
            rw [hd]
            obtain ⟨i, s⟩ := r
            simp only [List.length_nil, Nat.add_zero] at hi
            rw [hi]
        | cons e before =>
            obtain ⟨rfl, rfl⟩ := List.cons.inj hcases
            rw [hb c List.mem_cons_self]
            refine ih.mpr ⟨before, d, after, rfl, ?_, hd, fun e he => ?_⟩
            · rw [hi, List.length_cons]
              omega
            · exact hb e (List.mem_cons_of_mem c he)

/-- There is no resolution exactly if no case matches. -/
theorem resolveFrom_eq_none_iff {index : Nat} {subject : Value} {cases : List (Case α)} :
    resolveFrom index subject cases = none ↔ ∀ c ∈ cases, c.match? subject = none := by
  induction cases generalizing index with
  | nil => simp [resolveFrom]
  | cons c cases ih =>
      rw [resolveFrom, List.forall_mem_cons]
      cases hc : c.match? subject with
      | some s => simp
      | none => simp [ih]

/-- The first case that takes the subject decides. -/
theorem resolve_eq_some_iff {s : CaseSnapshot α} {subject : Value} {r : Resolution} :
    s.resolve subject = some r ↔
      ∃ before c after, s.cases = before ++ c :: after ∧ r.index = before.length ∧
        c.match? subject = some r.selections ∧ ∀ d ∈ before, d.match? subject = none := by
  rw [resolve, resolveFrom_eq_some_iff]
  simp only [Nat.zero_add]

/-- A snapshot has no resolution exactly if none of its cases matches. -/
theorem resolve_eq_none_iff {s : CaseSnapshot α} {subject : Value} :
    s.resolve subject = none ↔ ∀ c ∈ s.cases, c.match? subject = none :=
  resolveFrom_eq_none_iff

/-- A resolution points at a case, and running it gives that case's reading. -/
theorem run_of_resolve {s : CaseSnapshot α} {subject : Value} {r : Resolution}
    (h : s.resolve subject = some r) :
    ∃ result, s.run r subject = some result ∧
      (s.cases.findSome? fun c => c.reading? subject) = some result := by
  obtain ⟨before, c, after, hcases, hi, hc, hb⟩ := resolve_eq_some_iff.mp h
  refine ⟨c.run r.selections subject, ?_, ?_⟩
  · have hget : s.cases[r.index]? = some c := by
      rw [hcases, hi, List.getElem?_append_right (Nat.le_refl _), Nat.sub_self]
      rfl
    rw [run, hget, Option.map_some]
  · have hnone : (before.findSome? fun d => d.reading? subject) = none := by
      rw [List.findSome?_eq_none_iff]
      intro d hd
      rw [Case.reading?_eq, hb d hd, Option.map_none]
    rw [hcases, List.findSome?_append, hnone, Option.none_or, List.findSome?_cons,
      Case.reading?_eq, hc, Option.map_some]

/-- Without a resolution no case makes anything of the subject. -/
theorem findSome?_reading?_of_resolve_none {s : CaseSnapshot α} {subject : Value}
    (h : s.resolve subject = none) :
    (s.cases.findSome? fun c => c.reading? subject) = none := by
  rw [List.findSome?_eq_none_iff]
  intro c hc
  rw [Case.reading?_eq, resolve_eq_none_iff.mp h c hc, Option.map_none]

end CaseSnapshot

end Casebook
