import Casebook.Proofs.Contents

/-!
# Casebook.Proofs.EqualValues

Structurally equal values have the same contents, so nothing that is written tells them apart.
Structural equality takes equal identities for equal contents and NaN for different from itself.

* `Value.contents_eq_of_equals` — equal values have the same contents, as long as one identity
  always stands for the same array or object;
* `Value.read_alike_of_equals` — written patterns and cases take them alike.
-/

namespace Casebook

namespace Binary64

/-- Equal numbers are one number, but for the sign of zero. -/
theorem unsigned_eq_of_equal {x y : Binary64} (h : x.equal y = true) : x.unsigned = y.unsigned := by
  obtain ⟨a, hx, hy⟩ := equal_iff.mp h
  by_cases ha : a = 0
  · subst ha
    rw [unsigned, unsigned, if_pos hx, if_pos hy]
  · rw [eq_of_toInt?_eq hx hy ha]

end Binary64

namespace Value

/-! ## equal values -/

/- Where both values hold an array or object of one identity, structural equality does not look
inside.  There they have to agree. -/

mutual

/-- Values that share an array or object only where they agree on it, and are structurally equal,
have the same contents. -/
theorem contents_eq_of_agree (v w : Value)
    (hc : ∀ a ∈ v.nodes, ∀ b ∈ w.nodes, a.identity? = b.identity? → a = b)
    (h : v.equals w = true) : v.contents = w.contents := by
  cases v with
  | number x =>
      cases w with
      | number y => exact congrArg number (Binary64.unsigned_eq_of_equal h)
      | undefined | null | bool _ | string _ | array _ _ | object _ _ => cases h
  | array i vs =>
      cases w with
      | array j ws =>
          rw [equals, Bool.or_eq_true, beq_iff_eq] at h
          rcases h with rfl | h
          · rw [hc _ List.mem_cons_self _ List.mem_cons_self rfl]
          · exact congrArg (array 0) (contentsItems_eq_of_agree vs ws (fun a ha b hb =>
              hc a (List.mem_cons_of_mem _ ha) b (List.mem_cons_of_mem _ hb)) h)
      | undefined | null | bool _ | number _ | string _ | object _ _ => cases h
  | object i ps =>
      cases w with
      | object j qs =>
          rw [equals, Bool.or_eq_true, beq_iff_eq] at h
          rcases h with rfl | h
          · rw [hc _ List.mem_cons_self _ List.mem_cons_self rfl]
          · exact congrArg (object 0) (contentsProps_eq_of_agree ps qs (fun a ha b hb =>
              hc a (List.mem_cons_of_mem _ ha) b (List.mem_cons_of_mem _ hb)) h)
      | undefined | null | bool _ | number _ | string _ | array _ _ => cases h
  | undefined | null => cases w <;> first | rfl | cases h
  | bool b =>
      cases w with
      | bool c => exact congrArg bool (beq_iff_eq.mp h)
      | undefined | null | number _ | string _ | array _ _ | object _ _ => cases h
  | string s =>
      cases w with
      | string t => exact congrArg string (beq_iff_eq.mp h)
      | undefined | null | bool _ | number _ | array _ _ | object _ _ => cases h

theorem contentsItems_eq_of_agree (vs ws : List Value)
    (hc : ∀ a ∈ nodesItems vs, ∀ b ∈ nodesItems ws, a.identity? = b.identity? → a = b)
    (h : equalsItems vs ws = true) : contentsItems vs = contentsItems ws := by
  cases vs with
  | nil =>
      cases ws with
      | nil => rfl
      | cons w ws => cases h
  | cons v vs =>
      cases ws with
      | nil => cases h
      | cons w ws =>
          obtain ⟨hv, hvs⟩ := (Bool.and_eq_true ..).mp h
          rw [contentsItems, contentsItems,
            contents_eq_of_agree v w (fun a ha b hb =>
              hc a (List.mem_append_left _ ha) b (List.mem_append_left _ hb)) hv,
            contentsItems_eq_of_agree vs ws (fun a ha b hb =>
              hc a (List.mem_append_right _ ha) b (List.mem_append_right _ hb)) hvs]

theorem contentsProps_eq_of_agree (ps qs : List (String × Value))
    (hc : ∀ a ∈ nodesProps ps, ∀ b ∈ nodesProps qs, a.identity? = b.identity? → a = b)
    (h : equalsProps ps qs = true) : contentsProps ps = contentsProps qs := by
  cases ps with
  | nil =>
      cases qs with
      | nil => rfl
      | cons q qs => cases h
  | cons p ps =>
      obtain ⟨k, v⟩ := p
      cases qs with
      | nil => cases h
      | cons q qs =>
          obtain ⟨l, w⟩ := q
          rw [equalsProps, Bool.and_eq_true, Bool.and_eq_true, beq_iff_eq] at h
          obtain ⟨⟨rfl, hv⟩, hps⟩ := h
          rw [contentsProps, contentsProps,
            contents_eq_of_agree v w (fun a ha b hb =>
              hc a (List.mem_append_left _ ha) b (List.mem_append_left _ hb)) hv,
            contentsProps_eq_of_agree ps qs (fun a ha b hb =>
              hc a (List.mem_append_right _ ha) b (List.mem_append_right _ hb)) hps]

end

/-- In a coherent pair, structural equality is equality of contents. -/
theorem contents_eq_of_equals {v w : Value} (hc : Coherent [v, w]) (h : v.equals w = true) :
    v.contents = w.contents := by
  refine contents_eq_of_agree v w (fun a ha b hb => hc a ?_ b ?_) h
  · exact List.mem_append_left _ ha
  · exact List.mem_append_right _ (List.mem_append_left _ hb)

/-! ## what is written of them -/

/-- **Structurally equal values are taken alike.**  A pattern that can be written matches both or
neither.  It captures under the same keys and what it captures is written in the same way, the
argument of a case too.  So a written case makes the same result of both. -/
theorem read_alike_of_equals {v w : Value} (hc : Coherent [v, w]) (h : v.equals w = true) :
    (∀ (j : Json) (p : Pattern), j.Ordered → Pattern.ofJson j = .ok p →
      p.matches v = p.matches w ∧
      ∀ s t, p.match? v = some s → p.match? w = some t →
        (∀ k, s.contains k = t.contains k) ∧
        (∀ k c d, s.get? k = some c → t.get? k = some d → c.toValue.toJson = d.toValue.toJson) ∧
        (s.argument v).toValue.toJson = (t.argument w).toValue.toJson) ∧
    ∀ (spec : CaseSpec) (key : String) (c : Case Json),
      (∀ j ∈ spec.written ++ spec.conditions, j.Ordered) → spec.toCase key = .ok c →
      (c.match? v).map (fun s => c.run s v) = (c.match? w).map fun s => c.run s w := by
  have hcontents : v.contents = w.contents := contents_eq_of_equals hc h
  constructor
  · intro j p hj hp
    have hsees : p.SeesContents := Pattern.match?_contents (Pattern.writable_of_ofJson j hj p hp)
    refine ⟨?_, fun s t hs ht => ?_⟩
    · rw [← Pattern.matches_contents hsees v, hcontents, Pattern.matches_contents hsees w]
    · have hst : s.contents = t.contents := by
        have hboth := (hsees v).symm.trans ((congrArg p.match? hcontents).trans (hsees w))
        rw [hs, ht] at hboth
        exact Option.some.inj hboth
      refine ⟨fun k => ?_, fun k c d hk hk' => ?_, ?_⟩
      · rw [← s.contains_contents, hst, t.contains_contents]
      · have hget := congrArg (·.get? k) hst
        simp only [Selections.get?_contents, hk, hk', Option.map_some, Option.some.injEq] at hget
        exact Capture.toJson_eq_of_contents_eq hget
      · rw [← s.toJson_argument_contents, hst, hcontents, t.toJson_argument_contents]
  · intro spec key c hspec hcase
    rw [← Case.reading?_eq, ← Case.reading?_eq, CaseSpec.reading?_of_toCase hcase,
      CaseSpec.reading?_of_toCase hcase, ← CaseSpec.reading?_contents hspec, hcontents,
      CaseSpec.reading?_contents hspec]

/-- The same array twice, holding zero, and an array that only equals itself. -/
def shared : Value :=
  .array 0 [.array 1 [.number (.zero false)], .array 1 [.number (.zero false)],
    .array 2 [.number .nan]]

/-- Two arrays that hold the negative zero, and the same array behind them. -/
def separate : Value :=
  .array 3 [.array 4 [.number (.zero true)], .array 5 [.number (.zero true)],
    .array 2 [.number .nan]]

/-- The two values are coherent, although one of them shares what the other holds twice. -/
theorem coherent_shared_separate : Coherent [shared, separate] := by
  intro a ha b hb hab
  simp only [shared, separate, nodesItems, nodes, List.mem_append, List.mem_cons,
    List.not_mem_nil, or_false] at ha hb
  rcases ha with (rfl | rfl | rfl | rfl) | rfl | rfl | rfl | rfl <;>
    rcases hb with (rfl | rfl | rfl | rfl) | rfl | rfl | rfl | rfl <;>
    first | rfl | cases hab

/-- From zero to anywhere. -/
def fromZero : Pattern :=
  .tuple [.select (.named "from") (some (.tuple [.literal (.number (.zero false))])),
    .each (.select (.named "to") none), .wildcard]

def fromZeroCase : CaseSpec := { kind := .withPatterns, pattern := some fromZero.toJson }

/-- One subject shares an array, and the other has negative zeros in two arrays; the case makes the
same result of both. -/
theorem read_alike_of_equals_fromZero :
    ∃ s t c, fromZero.match? shared = some s ∧ fromZero.match? separate = some t ∧
      (s.argument shared).toValue.toJson = (t.argument separate).toValue.toJson ∧
      fromZeroCase.toCase "0" = .ok c ∧
      (c.match? shared).map (fun s => c.run s shared) =
        (c.match? separate).map fun s => c.run s separate := by
  have hwritable : fromZero.Writable := ⟨⟨rfl, trivial⟩, trivial, trivial, trivial⟩
  have hordered : fromZero.toJson.Ordered := fromZero.ordered_toJson hwritable
  obtain ⟨hpatterns, hcases⟩ := read_alike_of_equals coherent_shared_separate rfl
  obtain ⟨-, hcaptures⟩ := hpatterns _ _ hordered (fromZero.ofJson_toJson hwritable)
  have hok : (fromZeroCase.toCase "0").isOk = true := by decide +kernel
  cases hc : fromZeroCase.toCase "0" with
  | error e =>
      rw [hc] at hok
      cases hok
  | ok c =>
      refine ⟨_, _, c, rfl, rfl, (hcaptures _ _ rfl rfl).2.2, rfl, hcases _ "0" c ?_ hc⟩
      exact List.forall_mem_singleton.mpr hordered

end Value

end Casebook
