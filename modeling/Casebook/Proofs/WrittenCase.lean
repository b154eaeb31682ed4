import Casebook.Document.Evaluate
import Casebook.Proofs.Resolution

/-!
# Casebook.Proofs.WrittenCase

What one written case makes of a subject, read off what is written: its patterns are decoded and
matched, and nothing else is built.

* `CaseSpec.reading?` — the reading of a written case;
* `map_ofJson_of_decode` — decoding goes pattern by pattern;
* `build_of_toCase`, `handler_of_build` — the declaration that is built, and its handler;
* `reading?_of_toCase` — the case that is built makes of a subject what was written;
* `exists_ofJson_of_toCase` — it can only be built if all its patterns are well written.
-/

namespace Casebook

universe u v

/-! ## steps that succeed -/

section Success

variable {ε ε' : Type u} {β γ : Type v}

/-- Two steps succeed if the first does, and the second with its result. -/
theorem bind_eq_ok_iff {x : Except ε β} {f : β → Except ε γ} {c : γ} :
    x >>= f = .ok c ↔ ∃ b, x = .ok b ∧ f b = .ok c := by
  cases x <;> simp [bind, Except.bind]

theorem map_eq_ok_iff {x : Except ε β} {f : β → γ} {c : γ} :
    x.map f = .ok c ↔ ∃ b, x = .ok b ∧ f b = c := by
  cases x <;> simp [Except.map]

theorem exists_map_eq_ok_iff {x : Except ε β} {f : β → γ} :
    (∃ c, x.map f = .ok c) ↔ ∃ b, x = .ok b := by
  simp only [map_eq_ok_iff]
  constructor
  · rintro ⟨-, b, hb, -⟩
    exact ⟨b, hb⟩
  · rintro ⟨b, hb⟩
    exact ⟨f b, b, hb, rfl⟩

/-- To rewrite its error does not change whether a step succeeds. -/
theorem mapError_eq_ok_iff {x : Except ε β} {f : ε → ε'} {b : β} :
    x.mapError f = .ok b ↔ x = .ok b := by
  cases x with
  | error e => exact ⟨nofun, nofun⟩
  | ok b' =>
      show Except.ok b' = Except.ok b ↔ _
      rw [Except.ok.injEq, Except.ok.injEq]

end Success

namespace CaseSpec

/-! ## the reading of a written case -/

/-- The alternatives as they are written, in order. -/
def written (spec : CaseSpec) : List Json := spec.pattern.toList ++ spec.patterns

/-- The patterns that the whole subject has to match besides. -/
def conditions (spec : CaseSpec) : List Json := spec.guard.toList ++ spec.predicate.toList

/-- What a written pattern captures of a subject. -/
def captures? (subject : Value) (j : Json) : Option Selections :=
  (Pattern.ofJson j).toOption.bind fun p => p.match? subject

/-- Whether a written pattern matches a subject. -/
def holds (subject : Value) (j : Json) : Bool :=
  (Pattern.ofJson j).toOption.any fun p => p.matches subject

/-- The captures of the first alternative that matches.  Without alternatives everything
matches. -/
def firstCaptures? (spec : CaseSpec) (subject : Value) : Option Selections :=
  match spec.written with
  | [] => Pattern.wildcard.match? subject
  | js => js.findSome? (captures? subject)

/-- What the case yields: its result as written, or else what it captured. -/
def output (spec : CaseSpec) (subject : Value) (s : Selections) : Json :=
  match spec.result with
  | some j => j
  | none => (s.argument subject).toValue.toJson

/-- What the case makes of a subject. -/
def reading? (spec : CaseSpec) (subject : Value) : Option Json :=
  if spec.conditions.all (holds subject) then
    (spec.firstCaptures? subject).map (spec.output subject)
  else none

/-! ## decoding -/

variable {id : CaseId}

/-- Patterns that are decoded in a list are decoded one by one. -/
theorem decode_cons {j : Json} {js : List Json} {ps : List Pattern}
    (h : decode id (j :: js) = .ok ps) :
    ∃ p ps', Pattern.ofJson j = .ok p ∧ decode id js = .ok ps' ∧ ps = p :: ps' := by
  rw [decode] at h
  split at h
  case h_1 => cases h
  case h_2 p hp =>
      obtain ⟨ps', hps, rfl⟩ := map_eq_ok_iff.mp h
      exact ⟨p, ps', hp, hps, rfl⟩

/-- Decoded patterns are what the written ones decode to, one by one. -/
theorem map_ofJson_of_decode {js : List Json} {ps : List Pattern} (h : decode id js = .ok ps) :
    js.map Pattern.ofJson = ps.map .ok := by
  induction js generalizing ps with
  | nil =>
      obtain rfl := Except.ok.inj h
      rfl
  | cons j js ih =>
      obtain ⟨p, ps', hp, hps, rfl⟩ := decode_cons h
      rw [List.map_cons, List.map_cons, hp, ih hps]

/-- If a list is decoded, so is every pattern in it. -/
theorem exists_ofJson_of_decode {js : List Json} {ps : List Pattern} (h : decode id js = .ok ps)
    {j : Json} (hj : j ∈ js) : ∃ p, Pattern.ofJson j = .ok p := by
  have hmem : Pattern.ofJson j ∈ ps.map .ok :=
    map_ofJson_of_decode h ▸ List.mem_map_of_mem hj
  obtain ⟨p, -, hp⟩ := List.mem_map.mp hmem
  exact ⟨p, hp.symm⟩

/-- Once decoded, the alternatives as written capture what their patterns do. -/
theorem findSome?_captures?_of_decode {js : List Json} {ps : List Pattern}
    (h : decode id js = .ok ps) (subject : Value) :
    js.findSome? (captures? subject) = ps.findSome? fun p => p.match? subject := by
  have hdecoded : captures? subject =
      (fun decoded => decoded.toOption.bind fun p => p.match? subject) ∘ Pattern.ofJson := rfl
  rw [hdecoded, ← List.findSome?_map, map_ofJson_of_decode h, List.findSome?_map]
  rfl

/-- Once decoded, the conditions as written hold if their patterns match. -/
theorem all_holds_of_decode {js : List Json} {ps : List Pattern} (h : decode id js = .ok ps)
    (subject : Value) : js.all (holds subject) = ps.all fun p => p.matches subject := by
  have hdecoded : holds subject =
      (fun decoded => decoded.toOption.any fun p => p.matches subject) ∘ Pattern.ofJson := rfl
  rw [hdecoded, ← List.all_map, map_ofJson_of_decode h, List.all_map]
  rfl

/-! ## the case that is built -/

variable {spec : CaseSpec} {key : String} {c : Case Json}

/-- The declaration of a written case. -/
def draft (spec : CaseSpec) (key : String) (patterns guards : List Pattern) : CaseDraft Json where
  id := ⟨spec.kind, key⟩
  patterns
  guards := guards.map fun p => p.matches
  handler := if spec.result.isNone then some captured else none
  constant := spec.result

/-- A written case that is accepted has its alternatives and conditions decoded, and its declaration
is complete. -/
theorem build_of_toCase (h : spec.toCase key = .ok c) :
    ∃ patterns guards, decode ⟨spec.kind, key⟩ spec.written = .ok patterns ∧
      decode ⟨spec.kind, key⟩ spec.conditions = .ok guards ∧
      (spec.draft key patterns guards).build = .ok c := by
  unfold toCase at h
  obtain ⟨patterns, hpatterns, h⟩ := bind_eq_ok_iff.mp h
  obtain ⟨guards, hguards, h⟩ := bind_eq_ok_iff.mp h
  exact ⟨patterns, guards, hpatterns, hguards, mapError_eq_ok_iff.mp h⟩

/-- The handler of the case yields the result as written, or else what is captured. -/
theorem handler_of_build {patterns guards : List Pattern}
    (h : (spec.draft key patterns guards).build = .ok c) (s : Selections) (subject : Value) :
    c.handler s subject = spec.output subject s := by
  obtain ⟨-, -, -, hhandler⟩ := CaseDraft.eq_of_build h
  unfold CaseDraft.theHandler draft at hhandler
  unfold output
  cases hr : spec.result with
  | none =>
      simp only [hr, Option.isNone_none, if_true] at hhandler
      rw [← Except.ok.inj hhandler]
      rfl
  | some j =>
      simp only [hr, Option.isNone_some, Bool.false_eq_true, if_false] at hhandler
      rw [← Except.ok.inj hhandler]

/-- A written case has its own kind and the key that it is given. -/
theorem id_of_toCase (h : spec.toCase key = .ok c) : c.id = ⟨spec.kind, key⟩ := by
  obtain ⟨patterns, guards, -, -, hbuild⟩ := build_of_toCase h
  exact (CaseDraft.eq_of_build hbuild).1

/-- A written case and the case that is built from it read alike. -/
theorem reading?_of_toCase (h : spec.toCase key = .ok c) (subject : Value) :
    c.reading? subject = spec.reading? subject := by
  obtain ⟨patterns, guards, hpatterns, hguards, hbuild⟩ := build_of_toCase h
  obtain ⟨-, halternatives, hc, -⟩ := CaseDraft.eq_of_build hbuild
  have hconditions : c.guards.all (fun guard => guard subject) =
      spec.conditions.all (holds subject) := by
    rw [all_holds_of_decode hguards, hc, draft, List.all_map]
    rfl
  have hcaptures : (c.patterns.findSome? fun p => p.match? subject) =
      spec.firstCaptures? subject := by
    rw [halternatives, firstCaptures?]
    cases hw : spec.written with
    | nil =>
        rw [hw] at hpatterns
        obtain rfl := Except.ok.inj hpatterns
        rfl
    | cons j js =>
        rw [hw] at hpatterns
        obtain ⟨p, ps, -, -, rfl⟩ := decode_cons hpatterns
        exact (findSome?_captures?_of_decode hpatterns subject).symm
  have hhandler : (fun s => c.handler s subject) = spec.output subject :=
    funext fun s => handler_of_build hbuild s subject
  rw [Case.reading?, hconditions, hcaptures, hhandler, reading?]

/-- Every pattern of a case that can be built is well written. -/
theorem exists_ofJson_of_toCase (h : spec.toCase key = .ok c) {j : Json}
    (hj : j ∈ spec.written ++ spec.conditions) : ∃ p, Pattern.ofJson j = .ok p := by
  obtain ⟨patterns, guards, hpatterns, hguards, -⟩ := build_of_toCase h
  rcases List.mem_append.mp hj with hj | hj
  · exact exists_ofJson_of_decode hpatterns hj
  · exact exists_ofJson_of_decode hguards hj

end CaseSpec

end Casebook
