import Casebook.Proofs.Reading

/-!
# Casebook.Proofs.Fallback

Cases that take every subject by their form.

* `matchInto_of_isIrrefutable` — what the form of a pattern promises, it keeps;
* `fallbackLast_run` — only the last case of a state is a fallback, after any calls: registration
  lets nothing follow one;
* `cases_run_of_fallback` — so a state with a fallback keeps its cases until they are dropped;
* `fallback_decides` — it always has a result, and accepts no further case.
-/

namespace Casebook

universe u

/-! ## irrefutable patterns -/

namespace Pattern

/- Irrefutability does not depend on what was recorded before, so the walks are followed from
any selections.  Alternatives start from empty ones: there it is enough that some part
matches. -/

mutual

/-- A pattern that is irrefutable by its form matches every value, whatever was captured before. -/
theorem matchInto_of_isIrrefutable (p : Pattern) (h : p.isIrrefutable = true) (v : Value)
    (out : Selections) : (matchInto p v out).1 = true := by
  cases p with
  | wildcard => rfl
  | select key inner =>
      cases inner with
      | none => rfl
      | some p =>
          have hp : (matchInto p v out).1 = true := matchInto_of_isIrrefutable p h v out
          rw [matchInto]
          split
          case h_1 => rfl
          case h_2 ho =>
              rw [ho] at hp
              exact hp
  | all ps => exact matchAll_of_allIrrefutable ps h v out
  | any ps =>
      obtain ⟨branch, hb⟩ :=
        Option.isSome_iff_exists.mp (isSome_matchAny_of_anyIrrefutable ps h v)
      rw [matchInto, hb]
  | optional p =>
      rw [matchInto]
      split
      case isTrue => rfl
      case isFalse => exact matchInto_of_isIrrefutable p h v out
  | literal _ | object _ | tuple _ | each _ | not _ | kind _ | when _ =>
      rw [isIrrefutable] at h
      cases h

theorem matchAll_of_allIrrefutable (ps : List Pattern) (h : allIrrefutable ps = true) (v : Value)
    (out : Selections) : (matchAll ps v out).1 = true := by
  cases ps with
  | nil => rfl
  | cons p ps =>
      rw [allIrrefutable, Bool.and_eq_true] at h
      have hp : (matchInto p v out).1 = true := matchInto_of_isIrrefutable p h.1 v out
      rw [matchAll]
      split
      case h_1 o _ => exact matchAll_of_allIrrefutable ps h.2 v o
      case h_2 ho =>
          rw [ho] at hp
          exact hp

theorem isSome_matchAny_of_anyIrrefutable (ps : List Pattern) (h : anyIrrefutable ps = true)
    (v : Value) : (matchAny ps v).isSome = true := by
  cases ps with
  | nil => cases h
  | cons p ps =>
      rw [matchAny]
      split
      case h_1 => rfl
      case h_2 hp =>
          -- the first part does not match, so it is one of the others that promises to
          rw [anyIrrefutable, Bool.or_eq_true] at h
          refine isSome_matchAny_of_anyIrrefutable ps (h.resolve_left fun hi => ?_) v
          have hm : (matchInto p v ∅).1 = true := matchInto_of_isIrrefutable p hi v ∅
          simp [Selections.ofResult?, hm] at hp

end

/-- A pattern that is irrefutable by its form has captures of every value. -/
theorem isSome_match?_of_isIrrefutable {p : Pattern} (h : p.isIrrefutable = true) (v : Value) :
    (p.match? v).isSome = true := by
  have hm : (p.matchInto v ∅).1 = true := matchInto_of_isIrrefutable p h v ∅
  rw [match?, Selections.ofResult?, hm]
  rfl

end Pattern

namespace Case

variable {α : Type u}

/-- A fallback takes every subject. -/
theorem isSome_reading?_of_isFallback {c : Case α} (h : c.isFallback = true) (subject : Value) :
    (c.reading? subject).isSome = true := by
  rw [isFallback, Bool.and_eq_true, List.isEmpty_iff, List.any_eq_true] at h
  obtain ⟨hguards, p, hp, hirrefutable⟩ := h
  have hmatch : (c.patterns.findSome? fun p => p.match? subject).isSome = true :=
    List.findSome?_isSome_iff.mpr ⟨p, hp, Pattern.isSome_match?_of_isIrrefutable hirrefutable _⟩
  rw [reading?, hguards, List.all_nil, if_pos rfl, Option.isSome_map, hmatch]

end Case

/-! ## states with a fallback -/

namespace EvaluationState

open CaseList (FallbackLast)

variable {α : Type u} {s : EvaluationState α} {f : Case α}

/-- No call puts a case behind a fallback. -/
theorem fallbackLast_call (h : FallbackLast s.cases.cases) (c : Call α) :
    FallbackLast (s.call c).2.cases.cases := by
  rcases cases_call s c with hc | ⟨case, ha, hc⟩ | ⟨-, hc⟩
  · rw [hc]
    exact h
  · rw [hc]
    exact CaseList.fallbackLast_concat h ha
  · rw [hc]
    exact CaseList.fallbackLast_nil

/-- Whatever is called, only the last case is a fallback. -/
theorem fallbackLast_run (h : FallbackLast s.cases.cases) (calls : List (Call α)) :
    FallbackLast (s.run calls).cases.cases := by
  induction calls generalizing s with
  | nil => exact h
  | cons c calls ih => exact ih (fallbackLast_call h c)

/-- While there is a fallback, no call but a reset or disposal changes the cases. -/
theorem cases_call_of_fallback (h : FallbackLast s.cases.cases) (hf : f ∈ s.cases.cases)
    (hfallback : f.isFallback = true) {c : Call α} (hr : c ≠ .reset) (hd : c ≠ .dispose) :
    (s.call c).2.cases = s.cases := by
  rcases cases_call s c with hc | ⟨case, ha, -⟩ | ⟨hc, -⟩
  · exact hc
  · rw [CaseList.admits_of_fallback h hf hfallback] at ha
    cases ha
  · exact absurd hc (not_or.mpr ⟨hr, hd⟩)

/-- A state with a fallback keeps its cases until it is reset or disposed. -/
theorem cases_run_of_fallback (h : FallbackLast s.cases.cases) (hf : f ∈ s.cases.cases)
    (hfallback : f.isFallback = true) {calls : List (Call α)} (hr : .reset ∉ calls)
    (hd : .dispose ∉ calls) : (s.run calls).cases = s.cases := by
  induction calls generalizing s with
  | nil => rfl
  | cons c calls ih =>
      rw [List.mem_cons, not_or] at hr hd
      have hc : (s.call c).2.cases = s.cases :=
        cases_call_of_fallback h hf hfallback (Ne.symm hr.1) (Ne.symm hd.1)
      rw [run_cons, ih (hc ▸ h) (hc ▸ hf) hr.2 hd.2, hc]

/-- With a fallback there is a result. -/
theorem evaluate_of_fallback (h : Coherent s) (hl : s.lifecycle ≠ .disposed)
    (hf : f ∈ s.cases.cases) (hfallback : f.isFallback = true) :
    ∃ result, s.evaluate = .ok (some result) := by
  have hsome : (s.cases.cases.findSome? fun c => c.reading? s.subject).isSome = true :=
    List.findSome?_isSome_iff.mpr ⟨f, hf, Case.isSome_reading?_of_isFallback hfallback _⟩
  obtain ⟨result, hresult⟩ := Option.isSome_iff_exists.mp hsome
  refine ⟨result, ?_⟩
  rw [evaluate_eq_reading h hl, reading, hresult]

/-- With a fallback no case is added: its identity is found taken, or it is refused over the
fallback. -/
theorem register_of_fallback (hl : s.lifecycle ≠ .disposed) (h : FallbackLast s.cases.cases)
    (hf : f ∈ s.cases.cases) (hfallback : f.isFallback = true) (c : Case α) :
    (s.register c).1 =
      if s.cases.contains c.id then .ok .duplicate
      else .error ⟨.fallbackNotLast f.id.label c.id.label, some c.id.label⟩ := by
  rw [register, if_neg hl, CaseList.register_of_fallback h hf hfallback]
  by_cases hc : s.cases.contains c.id
  · simp only [hc, if_true]
  · simp only [hc, if_false, Bool.false_eq_true]

/-- **A fallback decides.**  A pattern that is irrefutable by its form matches every value.  So a
live state with a case that shows by its form that it takes every subject has a result for each
subject, until it is reset or disposed, and accepts no case meanwhile: a registration finds its
identity taken, or is refused over the fallback. -/
theorem fallback_decides :
    (∀ p : Pattern, p.isIrrefutable = true → ∀ v, p.matches v = true) ∧
      ∀ (config : Config) (handle : Handle) (calls : List (Call α)) (f : Case α),
        let s := (new config handle).run calls
        s.lifecycle ≠ .disposed → f ∈ s.cases.cases → f.isFallback = true →
          ∀ calls', .reset ∉ calls' → .dispose ∉ calls' →
            let t := s.run calls'
            (∃ result, t.evaluate = .ok (some result)) ∧
              (∀ subject, ∃ t', t.setSubject subject = (.ok (), t') ∧ t'.subject = subject ∧
                ∃ result, t'.evaluate = .ok (some result)) ∧
              ∀ c, (t.register c).1 =
                if t.cases.contains c.id then .ok .duplicate
                else .error ⟨.fallbackNotLast f.id.label c.id.label, some c.id.label⟩ := by
  refine ⟨fun p h v => Pattern.matchInto_of_isIrrefutable p h v ∅, ?_⟩
  intro config handle calls f s hl hf hfallback calls' hr hd t
  have hlast : FallbackLast s.cases.cases := fallbackLast_run CaseList.fallbackLast_nil calls
  have hcases : t.cases = s.cases := cases_run_of_fallback hlast hf hfallback hr hd
  have hlive : t.lifecycle ≠ .disposed := lifecycle_run_ne_disposed hl hd
  have ht : Coherent t := coherent_run (coherent_run (coherent_new config handle) calls) calls'
  rw [← hcases] at hlast hf
  refine ⟨evaluate_of_fallback ht hlive hf hfallback, fun subject => ?_,
    register_of_fallback hlive hlast hf hfallback⟩
  have hset := setSubject_of_live hlive subject
  have ht' := coherent_setSubject ht subject
  rw [hset] at ht'
  exact ⟨_, hset, rfl, evaluate_of_fallback ht' (by simp [recompute]) hf hfallback⟩

/-- A fallback that is not declared as one: its second alternative takes whatever is there. -/
def numberOrAnything : Case Nat where
  id := ⟨.withPatterns, "any"⟩
  patterns := [.kind .number, .any [.literal .null, .optional (.select (.named "x") none)]]
  guards := []
  handler _ _ := 1
  valid := by decide

/-- Another case, which comes too late. -/
def tooLate : Case Nat where
  id := ⟨.withPatterns, "false"⟩
  patterns := [.literal (.bool false)]
  guards := []
  handler _ _ := 2
  valid := by decide

/-- The fallback takes a subject that comes later and gives it its own result, and the other case
is refused. -/
theorem fallback_decides_numberOrAnything :
    (Pattern.any [.literal .null, .optional (.select (.named "x") none)]).isIrrefutable = true ∧
      (Pattern.any [.literal .null, .optional (.select (.named "x") none)]).matches
        (.bool true) = true ∧
      ∃ s t : EvaluationState Nat,
        s = (new ⟨true, false⟩).run [.register numberOrAnything] ∧
        s.lifecycle ≠ .disposed ∧ numberOrAnything ∈ s.cases.cases ∧
        numberOrAnything.isFallback = true ∧
        t = s.run [.setSubject (.bool true), .register tooLate] ∧
        t.evaluate = .ok (some 1) ∧
        (t.register tooLate).1 =
          .error ⟨.fallbackNotLast "With.any" "With.false", some "With.false"⟩ := by
  obtain ⟨hmatches, hstate⟩ := fallback_decides (α := Nat)
  have hmem : numberOrAnything ∈
      ((new ⟨true, false⟩).run [.register numberOrAnything]).cases.cases :=
    List.mem_singleton_self _
  obtain ⟨⟨result, hresult⟩, -, hregister⟩ :=
    hstate ⟨true, false⟩ .detached [.register numberOrAnything] numberOrAnything (by decide) hmem
      (by decide) [.setSubject (.bool true), .register tooLate] (by simp) (by simp)
  have hone : result = 1 := Option.some.inj (Except.ok.inj (hresult.symm.trans rfl))
  exact ⟨by decide, hmatches _ (by decide) _, _, _, rfl, by decide, hmem, by decide, rfl,
    hone ▸ hresult, hregister tooLate⟩

end EvaluationState

end Casebook
