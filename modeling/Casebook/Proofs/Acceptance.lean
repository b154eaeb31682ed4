import Casebook.Proofs.Occurrences
import Casebook.Proofs.Rearrangement
import Casebook.Proofs.Resolution

/-!
# Casebook.Proofs.Acceptance

Which values a pattern takes has nothing to do with what it captures.

* `Pattern.Accepts` — the values a pattern accepts, read off its form, with no selections;
* `matches_iff_accepts` — the matcher decides this, whatever it records on the way;
* `Pattern.erased` — a pattern without its captures, with `matches_erased` and `keys_erased`;
* `Case.erased`, `index_resolve_erased` — the same for cases: the same one wins;
* `decides_without_captures` — all of it together.
-/

namespace Casebook

universe u

namespace Pattern

/-! ## the values a pattern accepts -/

theorem sizeOf_lt_of_field {fields : List (String × Pattern)} {name : String} {p : Pattern}
    (h : (name, p) ∈ fields) : sizeOf p < sizeOf fields := by
  have hlt := List.sizeOf_lt_of_mem h
  rw [Prod.mk.sizeOf_spec] at hlt
  omega

/-- The pattern at a place is smaller than the list it stands in, which is all that the recursion
needs. -/
theorem sizeOf_lt_of_place {ps : List Pattern} {items : List Value} {p : Pattern} {w : Value}
    (h : (p, w) ∈ ps.zip items) : sizeOf p < sizeOf ps :=
  List.sizeOf_lt_of_mem (List.of_mem_zip h).1

/-- Acceptance, captures left aside.  An absent property is accepted only by a field whose pattern
is itself optional. -/
def Accepts : Pattern → Value → Prop
  | literal w, v => w.strictEquals v = true
  | wildcard, _ | select _ none, _ => True
  | select _ (some p), v => p.Accepts v
  | object fields, v => ∃ props, v.props? = some props ∧ ∀ name p, (h : (name, p) ∈ fields) →
      (∃ w, props.lookup name = some w ∧ p.Accepts w) ∨
        props.lookup name = none ∧ p.isOptional = true
  | tuple ps, v => ∃ items, v.items? = some items ∧ items.length = ps.length ∧
      ∀ p w, (h : (p, w) ∈ ps.zip items) → p.Accepts w
  | each p, v => ∃ items, v.items? = some items ∧ ∀ w ∈ items, p.Accepts w
  | not p, v => ¬ p.Accepts v
  | all ps, v => ∀ p, p ∈ ps → p.Accepts v
  | any ps, v => ∃ p, ∃ _ : p ∈ ps, p.Accepts v
  | optional p, v => v = .undefined ∨ p.Accepts v
  | kind k, v => v.kind = k
  | when test, v => test v = true
termination_by p => p
decreasing_by
  · decreasing_tactic
  · have hlt := sizeOf_lt_of_field h
    decreasing_tactic
  · have hlt := sizeOf_lt_of_place h
    decreasing_tactic
  all_goals decreasing_tactic

/-- A field that the properties of an object satisfy. -/
theorem matchesField_iff {name : String} {p : Pattern}
    (h : ∀ w, p.matches w = true ↔ p.Accepts w) (props : Props Value) :
    matchesField (name, p) props = true ↔
      (∃ w, props.lookup name = some w ∧ p.Accepts w) ∨
        props.lookup name = none ∧ p.isOptional = true := by
  rw [matchesField]
  cases props.lookup name with
  | some w => simp [h]
  | none =>
      -- an optional pattern takes `undefined` whatever is inside it
      have hundefined : p.isOptional = true → p.matches .undefined = true := by
        intro ho
        cases p with
        | optional q => rw [matches_optional]; rfl
        | _ => cases ho
      simpa using hundefined

/-- The matcher decides acceptance. -/
theorem matches_iff_accepts (p : Pattern) (v : Value) : p.matches v = true ↔ p.Accepts v := by
  induction p using childInduction generalizing v with
  | h p ih =>
      cases p with
      | literal w => rw [Accepts]; rfl
      | wildcard => rw [Accepts]; exact iff_true_intro rfl
      | select key inner =>
          cases inner with
          | none => rw [Accepts]; exact iff_true_intro rfl
          | some q =>
              rw [matches_select_some, Accepts]
              exact ih q List.mem_cons_self v
      | object fields =>
          rw [matches_object, Accepts]
          simp only [Option.any_eq_true, List.all_eq_true]
          refine exists_congr fun props => and_congr_right fun _ => ?_
          rw [Prod.forall]
          exact forall₂_congr fun name p => forall_congr' fun hf =>
            matchesField_iff (ih p (List.mem_map_of_mem hf)) props
      | tuple ps =>
          have hparts : ∀ p ∈ ps, ∀ v, p.matches v = true ↔ p.Accepts v := ih
          rw [matches_tuple, Accepts]
          simp only [Option.any_eq_true, Bool.and_eq_true, beq_iff_eq]
          refine exists_congr fun items => and_congr_right fun _ => and_congr_right fun _ => ?_
          rw [← List.map_uncurry_zip_eq_zipWith, List.all_map, List.all_eq_true, Prod.forall]
          exact forall₂_congr fun p w => forall_congr' fun h => hparts p (List.of_mem_zip h).1 w
      | each q =>
          rw [matches_each, Accepts]
          simp only [Option.any_eq_true, List.all_eq_true, ih q List.mem_cons_self]
      | not q =>
          rw [matches_not, Accepts, ← ih q List.mem_cons_self v, Bool.not_eq_true',
            Bool.not_eq_true]
      | all ps =>
          have hparts : ∀ p ∈ ps, ∀ v, p.matches v = true ↔ p.Accepts v := ih
          rw [matches_all, Accepts, List.all_eq_true]
          exact forall₂_congr fun p hp => hparts p hp v
      | any ps =>
          have hparts : ∀ p ∈ ps, ∀ v, p.matches v = true ↔ p.Accepts v := ih
          rw [matches_any, Accepts, List.any_eq_true]
          simp only [exists_prop]
          exact exists_congr fun p => and_congr_right fun hp => hparts p hp v
      | optional q =>
          rw [matches_optional, Accepts, Bool.or_eq_true, ih q List.mem_cons_self v]
          cases v <;> simp [Value.isUndefined]
      | kind k => rw [Accepts]; exact beq_iff_eq
      | when test => rw [Accepts]; rfl

/-! ## patterns without captures -/

mutual

/-- A pattern without its captures: what was selected is still looked at. -/
def erased : Pattern → Pattern
  | select _ none => wildcard
  | select _ (some p) => all [p.erased]
  | object fields => object (erasedFields fields)
  | tuple ps => tuple (erasedParts ps)
  | each p => each p.erased
  | not p => not p.erased
  | all ps => all (erasedParts ps)
  | any ps => any (erasedParts ps)
  | optional p => optional p.erased
  | literal v => literal v
  | wildcard => wildcard
  | kind k => kind k
  | when test => when test

def erasedParts : List Pattern → List Pattern
  | [] => []
  | p :: ps => p.erased :: erasedParts ps

def erasedFields : List (String × Pattern) → List (String × Pattern)
  | [] => []
  | (name, p) :: fields => (name, p.erased) :: erasedFields fields

end

theorem erasedParts_eq_map (ps : List Pattern) : erasedParts ps = ps.map erased := by
  induction ps with
  | nil => rfl
  | cons p ps ih => rw [erasedParts, List.map_cons, ih]

theorem erasedFields_eq_map (fields : List (String × Pattern)) :
    erasedFields fields = fields.map fun f => (f.1, f.2.erased) := by
  induction fields with
  | nil => rfl
  | cons f fields ih =>
      obtain ⟨name, p⟩ := f
      rw [erasedFields, List.map_cons, ih]

/-- A selection of an optional pattern is none, and its erasure is none either. -/
@[simp] theorem isOptional_erased (p : Pattern) : p.erased.isOptional = p.isOptional := by
  cases p with
  | select key inner => cases inner <;> rfl
  | _ => rfl

/-- Taking the captures out of a pattern leaves its shape. -/
theorem children_erased (p : Pattern) : p.erased.children = p.children.map erased := by
  cases p with
  | select key inner => cases inner <;> rfl
  | object fields =>
      rw [erased, children, erasedFields_eq_map, children, List.map_map, List.map_map]
      rfl
  | tuple ps | all ps | any ps => exact erasedParts_eq_map ps
  | each p | not p | optional p => rfl
  | literal _ | wildcard | kind _ | when _ => rfl

/-- Without its selections a pattern has no keys. -/
theorem keys_erased (p : Pattern) : p.erased.keys = [] := by
  rw [List.eq_nil_iff_forall_not_mem]
  induction p using childInduction with
  | h p ih =>
      intro k hk
      rw [mem_keys_iff, children_erased] at hk
      rcases hk with ⟨inner, hselect⟩ | ⟨-, q, hq, hk⟩
      · cases p with
        | select key inner' => cases inner' <;> cases hselect
        | _ => cases hselect
      · obtain ⟨p', hp', rfl⟩ := List.mem_map.mp hq
        exact ih p' hp' k hk

/-- A pattern that captures nothing keeps the rules of selection. -/
theorem fault?_of_keys_eq_nil {p : Pattern} (h : p.keys = []) : p.fault? = none := by
  have hkeys : ∀ k, ¬ p.census.Holds k := by
    intro k
    rw [holds_census, h]
    exact List.not_mem_nil
  have hanonymous : ¬ 0 < p.census.anonymous := hkeys .anonymous
  rw [fault?, if_neg (by omega), if_neg fun hmixed => hanonymous hmixed.1]

theorem matchesField_erased {f : String × Pattern} (h : f.2.erased.matches = f.2.matches) :
    matchesField (f.1, f.2.erased) = matchesField f := by
  funext props
  simp only [matchesField, h, isOptional_erased]

theorem map_matches_erased {ps : List Pattern} (h : ∀ p ∈ ps, p.erased.matches = p.matches) :
    (ps.map erased).map «matches» = ps.map «matches» := by
  rw [List.map_map]
  exact List.map_congr_left h

/-- Captures do not decide whether a value matches. -/
theorem matches_erased (p : Pattern) : p.erased.matches = p.matches := by
  induction p using childInduction with
  | h p ih =>
      funext v
      cases p with
      | select key inner =>
          cases inner with
          | none => rfl
          | some q =>
              rw [erased, matches_all, matches_select_some, ← ih q List.mem_cons_self]
              exact Bool.and_true _
      | object fields =>
          have hfields : (fields.map fun f => (f.1, f.2.erased)).map matchesField =
              fields.map matchesField := by
            rw [List.map_map]
            exact List.map_congr_left fun f hf =>
              matchesField_erased (ih f.2 (List.mem_map_of_mem hf))
          rw [erased, erasedFields_eq_map]
          simp only [matches_object, all_apply_eq hfields]
      | tuple ps =>
          have hparts : (ps.map erased).map «matches» = ps.map «matches» := map_matches_erased ih
          rw [erased, erasedParts_eq_map]
          simp only [matches_tuple, List.length_map, zipWith_eq hparts]
      | each q => rw [erased, matches_each, matches_each, ih q List.mem_cons_self]
      | not q => rw [erased, matches_not, matches_not, ih q List.mem_cons_self]
      | all ps =>
          have hparts : (ps.map erased).map «matches» = ps.map «matches» := map_matches_erased ih
          rw [erased, erasedParts_eq_map, matches_all, matches_all, all_apply_eq hparts]
      | any ps =>
          have hparts : (ps.map erased).map «matches» = ps.map «matches» := map_matches_erased ih
          rw [erased, erasedParts_eq_map, matches_any, matches_any, any_apply_eq hparts]
      | optional q => rw [erased, matches_optional, matches_optional, ih q List.mem_cons_self]
      | literal _ | wildcard | kind _ | when _ => rfl

end Pattern

/-! ## cases without captures -/

variable {α : Type u}

/-- A case whose patterns capture nothing. -/
def Case.erased (c : Case α) : Case α where
  id := c.id
  patterns := c.patterns.map Pattern.erased
  guards := c.guards
  handler := c.handler
  valid := by
    intro p hp
    obtain ⟨q, -, rfl⟩ := List.mem_map.mp hp
    exact Pattern.fault?_of_keys_eq_nil q.keys_erased

/-- The cases of a snapshot, capturing nothing. -/
def CaseSnapshot.erased (s : CaseSnapshot α) : CaseSnapshot α := ⟨s.cases.map Case.erased⟩

/-- A case without captures takes the same subjects. -/
theorem Case.isSome_match?_erased (c : Case α) (subject : Value) :
    (c.erased.match? subject).isSome = (c.match? subject).isSome := by
  have hsome : ∀ c : Case α, (c.match? subject).isSome =
      (c.patterns.any (fun p => p.matches subject) && c.guards.all fun guard => guard subject) := by
    intro c
    simp only [Pattern.matches_eq, ← List.isSome_findSome?]
    rw [match?]
    cases c.patterns.findSome? fun p => p.match? subject with
    | none => rfl
    | some s => cases c.guards.all fun guard => guard subject <;> rfl
  rw [hsome, hsome, erased, any_apply_eq (Pattern.map_matches_erased fun p _ => p.matches_erased)]

namespace CaseSnapshot

/-- The case that decides is found at the same place, from any position on. -/
theorem index_resolveFrom_erased (index : Nat) (subject : Value) (cases : List (Case α)) :
    (resolveFrom index subject (cases.map Case.erased)).map Resolution.index =
      (resolveFrom index subject cases).map Resolution.index := by
  induction cases generalizing index with
  | nil => rfl
  | cons c cases ih =>
      have hc := c.isSome_match?_erased subject
      rw [List.map_cons, resolveFrom, resolveFrom]
      cases he : c.erased.match? subject <;> cases hm : c.match? subject
      · exact ih (index + 1)
      · rw [he, hm] at hc
        cases hc
      · rw [he, hm] at hc
        cases hc
      · rfl

/-- Captures do not decide which case wins. -/
theorem index_resolve_erased (s : CaseSnapshot α) (subject : Value) :
    (s.erased.resolve subject).map Resolution.index = (s.resolve subject).map Resolution.index :=
  index_resolveFrom_erased 0 subject s.cases

end CaseSnapshot

/-- **Matching is decided without captures.**  Whether a pattern matches a value is whether it has
captures for it, and is read off the form of the pattern alone.  Without its captures it matches the
same values, and among cases without captures the same one wins. -/
theorem Pattern.decides_without_captures :
    (∀ (p : Pattern) (v : Value), p.matches v = (p.match? v).isSome ∧
      (p.matches v = true ↔ p.Accepts v) ∧
      p.erased.matches v = p.matches v ∧ p.erased.keys = []) ∧
    ∀ (s : CaseSnapshot α) (subject : Value),
      (s.erased.resolve subject).map Resolution.index =
        (s.resolve subject).map Resolution.index :=
  ⟨fun p v => ⟨p.matches_eq v, p.matches_iff_accepts v, congrFun p.matches_erased v,
    p.keys_erased⟩, fun s subject => s.index_resolve_erased subject⟩

end Casebook
