import Casebook.Case.Draft
import Casebook.Proofs.MatchByParts
import Casebook.Proofs.SelectionRules

/-!
# Casebook.Proofs.Alternatives

The two places where the first of several patterns decides: the alternatives of a case, and an
alternative pattern.  They take the same one.  The pattern hands on its captures together with
`undefined` under the keys of the others, so that whoever reads them finds every key.

* `Case.match?_of_guards_eq_nil` — without guards the first alternative that matches decides;
* `CaseDraft.exists_build` — what a declaration needs to become a case;
* `CaseDraft.match?_alternatives` — a case without guards against the alternative of its patterns.
-/

namespace Casebook

universe u

namespace Case

variable {α : Type u}

/-- Without guards a case takes what one of its patterns matches. -/
theorem match?_of_guards_eq_nil {c : Case α} (h : c.guards = []) (v : Value) :
    c.match? v = c.patterns.findSome? fun p => p.match? v := by
  rw [match?, h]
  cases c.patterns.findSome? fun p => p.match? v <;> rfl

end Case

namespace CaseDraft

open Pattern (any matchAny)

variable {α : Type u} {d : CaseDraft α} {handler : Handler α}

/-- A declaration that passes each of the checks becomes a case. -/
theorem exists_build (hform : d.formFault? = none) (hhandler : d.theHandler = .ok handler)
    (hrules : ∀ p ∈ d.alternatives, p.fault? = none) : ∃ c, d.build = .ok c := by
  unfold build
  split
  case h_1 h =>
      rw [hform] at h
      cases h
  case h_2 =>
      split
      case h_1 h =>
          rw [hhandler] at h
          cases h
      case h_2 =>
          split
          case h_1 h =>
              rw [List.findSome?_eq_none_iff.mpr hrules] at h
              cases h
          case h_2 => exact ⟨_, rfl⟩

/-- Nothing is wrong with the form of a declaration that has patterns. -/
theorem formFault?_of_patterns (hkind : d.id.kind = .withPatterns) (hne : d.patterns ≠ []) :
    d.formFault? = none := by
  rw [formFault?, hkind]
  exact if_neg fun h => hne (List.isEmpty_iff.mp h)

/-- The patterns of a declaration, if there are any, are its alternatives. -/
theorem alternatives_of_patterns (hne : d.patterns ≠ []) : d.alternatives = d.patterns :=
  if_neg fun h => hne (List.isEmpty_iff.mp h)

/-- **The alternatives of a case are an alternative.**  A case without guards that is declared with
some patterns, each of which keeps the rules of selection, takes a value iff the alternative of
these patterns matches it.  The first of them that matches decides in both.  The case has its
captures and no others; the alternative has the same ones, and `undefined` under all of its keys
that are not among them. -/
theorem match?_alternatives (hkind : d.id.kind = .withPatterns) (hguards : d.guards = [])
    (hne : d.patterns ≠ []) (hvalid : ∀ p ∈ d.patterns, ∃ names, p.validate = .ok names)
    (hhandler : d.theHandler = .ok handler) :
    ∃ c, d.build = .ok c ∧ ∀ v,
      ((c.match? v).isSome = true ↔ (any d.patterns).matches v = true) ∧
      ∀ s, c.match? v = some s → ∃ before p after t,
        d.patterns = before ++ p :: after ∧ (∀ q ∈ before, q.matches v = false) ∧
        p.match? v = some s ∧ matchAny d.patterns v = some s ∧
        (any d.patterns).match? v = some t ∧
        ∀ k, t.get? k =
          if s.contains k = true then s.get? k
          else if k ∈ (any d.patterns).keys then some .undefined else none := by
  have halternatives := alternatives_of_patterns hne
  have hrules : ∀ p ∈ d.alternatives, p.fault? = none := by
    intro p hp
    obtain ⟨names, hnames⟩ := hvalid p (halternatives ▸ hp)
    exact (Pattern.validate_eq_ok_iff.mp hnames).1
  obtain ⟨c, hc⟩ := exists_build (formFault?_of_patterns hkind hne) hhandler hrules
  obtain ⟨-, hpatterns, hcguards, -⟩ := eq_of_build hc
  have hfirst : ∀ v, c.match? v = d.patterns.findSome? fun p => p.match? v := by
    intro v
    rw [Case.match?_of_guards_eq_nil (hcguards.trans hguards), hpatterns, halternatives]
  refine ⟨c, hc, fun v => ⟨?_, fun s hs => ?_⟩⟩
  · rw [Pattern.matches_eq, Pattern.match?_any_eq_filledUp, Option.isSome_map, hfirst]
  · rw [hfirst] at hs
    obtain ⟨before, p, after, hsplit, hp, hbefore⟩ := List.findSome?_eq_some_iff.mp hs
    refine ⟨before, p, after, s.filledUp (any d.patterns).keys, hsplit, fun q hq => ?_, hp, ?_, ?_,
      Selections.get?_filledUp s _⟩
    · rw [Pattern.matches_eq, hbefore q hq, Option.isSome_none]
    · rw [Pattern.matchAny_eq_findSome?, hs]
    · rw [Pattern.match?_any_eq_filledUp, hs, Option.map_some]

/-- A pair that begins with `null`, any pair, or what comes by itself: the first captures its second
item before it fails, and two of them capture under one name. -/
def pairOrSingle : CaseDraft Nat where
  id := ⟨.withPatterns, "pair or single"⟩
  patterns := [.all [.tuple [.select (.named "first") none, .select (.named "rest") none],
      .tuple [.kind .null, .wildcard]],
    .tuple [.select (.named "first") none, .wildcard], .select (.named "single") none]
  constant := some 0

/-- The second alternative takes a pair of booleans.  Of the captures of the first, which fails, and
of the third, which would match too, there is nothing. -/
theorem match?_alternatives_pairOrSingle :
    ∃ c, pairOrSingle.build = .ok c ∧
      pairOrSingle.id.kind = .withPatterns ∧ pairOrSingle.guards = [] ∧
      pairOrSingle.patterns ≠ [] ∧ (∃ handler, pairOrSingle.theHandler = .ok handler) ∧
      (∀ p ∈ pairOrSingle.patterns, ∃ names, p.validate = .ok names) ∧
      ∃ s before p after t, c.match? (.array 0 [.bool true, .bool false]) = some s ∧
        pairOrSingle.patterns = before ++ p :: after ∧
        p.match? (.array 0 [.bool true, .bool false]) = some s ∧
        s = .ofList [(.named "first", .part (.bool true))] ∧
        (any pairOrSingle.patterns).match? (.array 0 [.bool true, .bool false]) = some t ∧
        t = .ofList [(.named "first", .part (.bool true)), (.named "rest", .undefined),
          (.named "single", .undefined)] := by
  have hvalid : ∀ p ∈ pairOrSingle.patterns, ∃ names, p.validate = .ok names := by
    simp only [pairOrSingle, List.forall_mem_cons]
    exact ⟨⟨_, rfl⟩, ⟨_, rfl⟩, ⟨_, rfl⟩, List.forall_mem_nil _⟩
  obtain ⟨c, hc, hmatch⟩ :=
    match?_alternatives (d := pairOrSingle) rfl rfl (by simp [pairOrSingle]) hvalid rfl
  obtain rfl := Except.ok.inj hc
  obtain ⟨before, p, after, t, hsplit, -, hp, -, ht, -⟩ :=
    (hmatch (.array 0 [.bool true, .bool false])).2 _ rfl
  exact ⟨_, rfl, rfl, rfl, by simp [pairOrSingle], ⟨_, rfl⟩, hvalid, _, before, p, after, t, rfl,
    hsplit, hp, rfl, ht, (Option.some.inj ht).symm⟩

end CaseDraft

end Casebook
