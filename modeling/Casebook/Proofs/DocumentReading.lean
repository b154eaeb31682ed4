import Casebook.Json.Printer
import Casebook.Proofs.Reading
import Casebook.Proofs.WrittenCase

/-!
# Casebook.Proofs.DocumentReading

What a document comes to, read off what is written in it.  The reading knows nothing of states,
registrations and resolutions: of the written cases it leaves out those whose identity occurred
earlier, and takes the first of the others that has a reading.

* `CaseDocument.remaining`, `reading` — the cases that count, and what the document comes to;
* `Registered` — a state that holds some written cases, kept by every step: `registered_new`,
  `registered_register`, `registered_setSubject`;
* `registered_registerFrom` — registering all cases of a document leaves those that remain;
* `evaluate_eq_reading_of_toState` — a document that describes a state evaluates to its reading.
-/

namespace Casebook

namespace CaseDocument

open EvaluationState (Coherent)

/-- A live state that holds some written cases, as far as evaluation can tell. -/
structure Registered (config : Config) (subject : Value) (specs : List CaseSpec)
    (s : EvaluationState Json) : Prop where
  live : s.lifecycle ≠ .disposed
  coherent : Coherent s
  config_eq : s.config = config
  subject_eq : s.subject = subject
  reading_eq : ∀ v, s.cases.cases.map (·.reading? v) = specs.map (·.reading? v)

variable {config : Config} {subject : Value} {specs kept : List CaseSpec}
  {s t : EvaluationState Json}

/-- A new state holds no written case. -/
theorem registered_new (config : Config) (handle : Handle) :
    Registered config .undefined [] (.new config handle) :=
  ⟨by simp [EvaluationState.new], EvaluationState.coherent_new config handle, rfl, rfl,
    fun _ => rfl⟩

/-- A new subject changes none of the cases. -/
theorem registered_setSubject (h : Registered config subject kept s) (v : Value) :
    Registered config v kept (s.setSubject v).2 := by
  have hcoherent := EvaluationState.coherent_setSubject h.coherent v
  rw [EvaluationState.setSubject_of_live h.live] at hcoherent ⊢
  exact ⟨by simp [EvaluationState.recompute], hcoherent, h.config_eq, rfl, h.reading_eq⟩

/-- A registration that is answered adds the written case, unless its identity is taken. -/
theorem registered_register (h : Registered config subject kept s) {spec : CaseSpec}
    {key : String} {c : Case Json} (hc : spec.toCase key = .ok c) {r : Registration}
    (hr : s.register c = (.ok r, t)) :
    Registered config subject
      (if s.cases.contains ⟨spec.kind, key⟩ then kept else kept ++ [spec]) t := by
  have ht : t = (s.register c).2 := by rw [hr]
  have hlive : (s.call (.register c)).2.lifecycle ≠ .disposed :=
    EvaluationState.lifecycle_call_ne_disposed h.live (by simp)
  obtain ⟨hsubject, hcases⟩ := EvaluationState.eq_of_register_ok h.live hr
  rw [CaseSpec.id_of_toCase hc] at hcases
  refine ⟨ht ▸ hlive, ht ▸ EvaluationState.coherent_register h.coherent c, ?_,
    hsubject.trans h.subject_eq, fun v => ?_⟩
  · rw [EvaluationState.config, hcases, ← h.config_eq]
    split <;> rfl
  · rw [hcases]
    split
    case isTrue => exact h.reading_eq v
    case isFalse =>
        rw [List.map_append, List.map_append, h.reading_eq v, List.map_singleton,
          List.map_singleton, CaseSpec.reading?_of_toCase hc v]

/-- A registration that is answered leaves the identity taken, and no other one besides those that
were. -/
theorem contains_of_register_ok (hl : s.lifecycle ≠ .disposed) {c : Case Json}
    {r : Registration} (hr : s.register c = (.ok r, t)) (id : CaseId) :
    t.cases.contains id = true ↔ id = c.id ∨ s.cases.contains id = true := by
  rw [(EvaluationState.eq_of_register_ok hl hr).2]
  split
  case isTrue hc => exact ⟨.inr, fun h => h.elim (fun he => he ▸ hc) fun h => h⟩
  case isFalse =>
      have hlast : ([c].any fun d => d.id == id) = true ↔ id = c.id := by
        rw [List.any_cons, List.any_nil, Bool.or_false, beq_iff_eq]
        exact eq_comm
      rw [CaseList.contains, List.any_append, Bool.or_eq_true, hlast, or_comm]
      rfl

/-! ## the reading of a document -/

/-- Written cases with their identities; the first of them stands at `position`. -/
def identified (position : Nat) (specs : List CaseSpec) : List (CaseId × CaseSpec) :=
  (specs.zipIdx position).map fun (spec, i) => (⟨spec.kind, key spec i⟩, spec)

/-- The cases whose identity is neither among the `earlier` ones nor that of a case before. -/
def firsts (earlier : List CaseId) : List (CaseId × CaseSpec) → List CaseSpec
  | [] => []
  | (id, spec) :: rest =>
      if id ∈ earlier then firsts (id :: earlier) rest else spec :: firsts (id :: earlier) rest

/-- The cases of a document without those whose identity occurred earlier. -/
def remaining (d : CaseDocument) : List CaseSpec := firsts [] (identified 0 d.cases)

/-- The subject of a document. -/
def subjectValue (d : CaseDocument) : Value :=
  match d.subject with
  | some j => .ofJson j
  | none => .undefined

/-- What the first of the remaining cases that takes the subject makes of it.  Without one there
is no result, or an error where there must be one. -/
def reading (d : CaseDocument) : Except DocumentError Json :=
  match d.remaining.findSome? fun spec => spec.reading? d.subjectValue with
  | some result => .ok result
  | none =>
      if d.exhaustive then .error (.mismatch { cause := .nonExhaustive d.subjectValue.display })
      else .ok .null

/-- Registering some cases in turn registers the first one and goes on from the state that this
leaves. -/
theorem registerFrom_cons {position : Nat} {spec : CaseSpec}
    (h : registerFrom position s (spec :: specs) = .ok t) :
    ∃ c r s', spec.toCase (key spec position) = .ok c ∧ s.register c = (.ok r, s') ∧
      registerFrom (position + 1) s' specs = .ok t := by
  unfold registerFrom at h
  obtain ⟨c, hc, h⟩ := bind_eq_ok_iff.mp h
  split at h
  case h_1 => cases h
  case h_2 r s' hr => exact ⟨c, r, s', hc, hr, h⟩

/-- Registering the written cases leaves those whose identity did not occur earlier. -/
theorem registered_registerFrom {position : Nat} {earlier : List CaseId}
    (hs : Registered config subject kept s)
    (hearlier : ∀ id, id ∈ earlier ↔ s.cases.contains id = true)
    (h : registerFrom position s specs = .ok t) :
    Registered config subject (kept ++ firsts earlier (identified position specs)) t := by
  induction specs generalizing position s kept earlier with
  | nil =>
      obtain rfl := Except.ok.inj h
      rw [identified, List.zipIdx_nil, List.map_nil, firsts, List.append_nil]
      exact hs
  | cons spec specs ih =>
      obtain ⟨c, r, s', hc, hr, h⟩ := registerFrom_cons h
      have hid : c.id = ⟨spec.kind, key spec position⟩ := CaseSpec.id_of_toCase hc
      have hs' := registered_register hs hc hr
      have hearlier' : ∀ id, id ∈ c.id :: earlier ↔ s'.cases.contains id = true := by
        intro id
        rw [List.mem_cons, hearlier, contains_of_register_ok hs.live hr]
      have ht := ih hs' hearlier' h
      rw [identified, List.zipIdx_cons, List.map_cons, firsts, ← hid]
      rw [← hid] at ht
      by_cases hmem : c.id ∈ earlier
      · rw [if_pos ((hearlier _).mp hmem)] at ht
        rw [if_pos hmem]
        exact ht
      · rw [if_neg fun hcontains => hmem ((hearlier _).mpr hcontains), List.append_assoc] at ht
        rw [if_neg hmem]
        exact ht

/-- Every pattern of a document that describes a state is well written. -/
theorem exists_ofJson_of_registerFrom {position : Nat}
    (h : registerFrom position s specs = .ok t) :
    ∀ spec ∈ specs, ∀ j ∈ spec.written ++ spec.conditions, ∃ p, Pattern.ofJson j = .ok p := by
  induction specs generalizing position s with
  | nil =>
      intro spec hspec
      cases hspec
  | cons spec specs ih =>
      obtain ⟨c, r, s', hc, -, h⟩ := registerFrom_cons h
      rw [List.forall_mem_cons]
      exact ⟨fun j hj => CaseSpec.exists_ofJson_of_toCase hc hj, ih h⟩

/-- Building the state of a document registers its cases from the first one on, and then sets its
subject. -/
theorem registerFrom_of_toState {d : CaseDocument} (h : d.toState = .ok s) :
    ∃ s', registerFrom 0 (.new d.config) d.cases = .ok s' ∧
      s = match d.subject with
        | some j => (s'.setSubject (.ofJson j)).2
        | none => s' := by
  unfold toState at h
  obtain ⟨s', hs', h⟩ := bind_eq_ok_iff.mp h
  refine ⟨s', hs', ?_⟩
  cases hsubject : d.subject with
  | none =>
      rw [hsubject] at h
      exact (Except.ok.inj h).symm
  | some j =>
      simp only [hsubject] at h ⊢
      split at h
      case h_1 => cases h
      case h_2 hset =>
          rw [hset]
          exact (Except.ok.inj h).symm

/-- The state of a document holds the cases that remain, and its subject. -/
theorem registered_of_toState {d : CaseDocument} (h : d.toState = .ok s) :
    Registered d.config d.subjectValue d.remaining s := by
  obtain ⟨s', hs', rfl⟩ := registerFrom_of_toState h
  have hregistered : Registered d.config .undefined d.remaining s' :=
    registered_registerFrom (registered_new d.config _) (by simp [CaseList.contains,
      EvaluationState.new]) hs'
  rw [subjectValue]
  cases d.subject with
  | none => exact hregistered
  | some j => exact registered_setSubject hregistered (.ofJson j)

/-- Searching the registered cases finds what searching the written ones finds. -/
theorem findSome?_of_registered (h : Registered config subject kept s) (v : Value) :
    (s.cases.cases.findSome? fun c => c.reading? v) =
      kept.findSome? fun spec => spec.reading? v := by
  have hmaps := congrArg (List.findSome? fun reading => reading) (h.reading_eq v)
  rw [List.findSome?_map, List.findSome?_map] at hmaps
  exact hmaps

/-- **A document evaluates to its reading.**  If a document describes a state at all, then all
patterns in it are well written, and it comes to what the first remaining case that takes the
subject yields: its result as written, or the JSON form of what it captured. -/
theorem evaluate_eq_reading_of_toState {d : CaseDocument} {s : EvaluationState Json}
    (h : d.toState = .ok s) :
    d.evaluate = d.reading ∧
      ∀ spec ∈ d.cases, ∀ j ∈ spec.written ++ spec.conditions, ∃ p, Pattern.ofJson j = .ok p := by
  obtain ⟨s', hs', -⟩ := registerFrom_of_toState h
  refine ⟨?_, exists_ofJson_of_registerFrom hs'⟩
  have hregistered : Registered d.config d.subjectValue d.remaining s := registered_of_toState h
  have hevaluate : d.evaluate = output s := by
    rw [evaluate, h]
    rfl
  rw [hevaluate, output,
    EvaluationState.evaluate_eq_reading hregistered.coherent hregistered.live,
    EvaluationState.reading, hregistered.subject_eq, hregistered.config_eq,
    findSome?_of_registered hregistered, reading]
  cases d.remaining.findSome? fun spec => spec.reading? d.subjectValue with
  | some result => rfl
  | none =>
      rw [config]
      cases d.exhaustive <;> rfl

/-- A document with a case under an identity that is taken, and a guarded case behind it. -/
def guarded : CaseDocument where
  subject := some (.array [.bool true])
  exhaustive := true
  cases := [
    { kind := .withPatterns, pattern := some (.object [("$kind", .string "string")])
      result := some .null },
    { kind := .withPatterns, id := some "0", pattern := some (.object [("$any", .bool true)]) },
    { kind := .withPatterns, pattern := some (.array [.object [("$select", .string "x")]])
      guard := some (.object [("$not", .string "y")]) }]

/-- The case under the taken identity is dropped, and the last one yields what it captured. -/
theorem evaluate_eq_reading_of_toState_guarded :
    ∃ s, guarded.toState = .ok s ∧ guarded.evaluate = guarded.reading ∧
      guarded.reading.toOption.map Json.compact = some "\x7b\"x\":true\x7d" ∧
      ∃ p, Pattern.ofJson (.object [("$not", .string "y")]) = .ok p := by
  have hok : guarded.toState.isOk = true := by decide +kernel
  cases h : guarded.toState with
  | error e =>
      rw [h] at hok
      cases hok
  | ok s =>
      obtain ⟨hevaluate, hpatterns⟩ := evaluate_eq_reading_of_toState h
      exact ⟨s, rfl, hevaluate, by decide +kernel,
        hpatterns _ (List.mem_of_getElem? (i := 2) rfl) _
          (by simp [CaseSpec.written, CaseSpec.conditions])⟩

end CaseDocument

end Casebook
