import Casebook.Proofs.Children
import Casebook.Proofs.MatchByParts
import Casebook.Proofs.WritablePatterns
import Casebook.Proofs.WrittenCase

/-!
# Casebook.Proofs.Contents

What a written pattern can see of a value: all but which arrays and objects in it are the same, and
which of its zeros are negative.  Literals compare arrays and objects by identity, but the literals
that can be written are neither.

* `Value.contents` — a value without identities and without the signs of its zeros;
* `Value.toJson_contents`, `Capture.toJson_eq_of_contents_eq` — they are all that JSON shows;
* `Selections.contents_record`, `contents_merge`, … — recording goes capture by capture;
* `Pattern.match?_contents` — matching the contents of a value captures the contents of what
  matching the value captures;
* `CaseSpec.reading?_contents` — and a written case makes the same result of both.
-/

namespace Casebook

universe u

/-! ## numbers -/

namespace Binary64

/-- The number, with the one zero for both. -/
def unsigned (x : Binary64) : Binary64 := if x.toInt? = some 0 then zero false else x

@[simp] theorem toInt?_unsigned (x : Binary64) : x.unsigned.toInt? = x.toInt? := by
  unfold unsigned
  split
  case isTrue h => exact h.symm
  case isFalse => rfl

/-- Equality does not see the signs of zeros. -/
theorem equal_unsigned (x y : Binary64) : x.equal y.unsigned = x.equal y := by
  rw [equal, toInt?_unsigned, equal]

end Binary64

namespace Value

/-- Zero is a safe integer, written without a sign. -/
theorem numberToJson_unsigned (x : Binary64) : numberToJson x.unsigned = numberToJson x := by
  unfold Binary64.unsigned
  split
  case isTrue h =>
      rw [numberToJson_of_safeInteger? (Binary64.safeInteger?_of_zero h),
        numberToJson_of_safeInteger? (Binary64.safeInteger?_of_zero rfl)]
  case isFalse => rfl

/-! ## values -/

mutual

/-- A value without identities and without the signs of its zeros. -/
def contents : Value → Value
  | undefined => undefined
  | null => null
  | bool b => bool b
  | number x => number x.unsigned
  | string s => string s
  | array _ items => array 0 (contentsItems items)
  | object _ props => object 0 (contentsProps props)

def contentsItems : List Value → List Value
  | [] => []
  | v :: vs => v.contents :: contentsItems vs

def contentsProps : List (String × Value) → List (String × Value)
  | [] => []
  | (k, v) :: ps => (k, v.contents) :: contentsProps ps

end

theorem contentsItems_eq_map (vs : List Value) : contentsItems vs = vs.map contents := by
  induction vs with
  | nil => rfl
  | cons v vs ih => rw [contentsItems, List.map_cons, ih]

theorem contentsProps_eq_map (ps : Props Value) :
    contentsProps ps = ps.map fun p => (p.1, p.2.contents) := by
  induction ps with
  | nil => rfl
  | cons p ps ih =>
      obtain ⟨k, v⟩ := p
      rw [contentsProps, List.map_cons, ih]

@[simp] theorem kind_contents (v : Value) : v.contents.kind = v.kind := by
  cases v <;> rfl

@[simp] theorem isUndefined_contents (v : Value) : v.contents.isUndefined = v.isUndefined := by
  cases v <;> rfl

/-- Taking the contents of an array takes those of its elements. -/
theorem items?_contents (v : Value) :
    v.contents.items? = v.items?.map fun items => items.map contents := by
  cases v with
  | array i items => exact congrArg some (contentsItems_eq_map items)
  | undefined | null | bool _ | number _ | string _ | object _ _ => rfl

/-- Taking the contents of an object takes those of its properties, under the same names. -/
theorem props?_contents (v : Value) :
    v.contents.props? = v.props?.map fun props => props.map fun p => (p.1, p.2.contents) := by
  cases v with
  | object i props => exact congrArg some (contentsProps_eq_map props)
  | undefined | null | bool _ | number _ | string _ | array _ _ => rfl

/-- Identity does not count where there is no array and no object. -/
theorem strictEquals_contents {w : Value} (hw : w.Scalar) (v : Value) :
    w.strictEquals v.contents = w.strictEquals v := by
  cases w with
  | number x =>
      cases v with
      | number y => exact Binary64.equal_unsigned x y
      | undefined | null | bool _ | string _ | array _ _ | object _ _ => rfl
  | undefined | array _ _ | object _ _ => exact hw.elim
  | null | bool _ | string _ => cases v <;> rfl

/-! ## the JSON form -/

mutual

/-- JSON shows neither identities nor the signs of zeros. -/
theorem toJson_contents (v : Value) : v.contents.toJson = v.toJson := by
  cases v with
  | number x => exact numberToJson_unsigned x
  | array i items => exact congrArg Json.array (toJsonItems_contents items)
  | object i props => exact congrArg Json.object (toJsonProps_contents props)
  | undefined | null | bool _ | string _ => rfl

theorem toJsonItems_contents (vs : List Value) :
    toJsonItems (contentsItems vs) = toJsonItems vs := by
  cases vs with
  | nil => rfl
  | cons v vs =>
      rw [contentsItems, toJsonItems, toJson_contents v, toJsonItems_contents vs, toJsonItems]

theorem toJsonProps_contents (ps : List (String × Value)) :
    toJsonProps (contentsProps ps) = toJsonProps ps := by
  cases ps with
  | nil => rfl
  | cons p ps =>
      obtain ⟨k, v⟩ := p
      rw [contentsProps, toJsonProps, toJson_contents v, toJsonProps_contents ps, toJsonProps]

end

end Value

/-! ## captures -/

namespace Capture

mutual

/-- The contents of the captured parts, put together in the same way. -/
def contents : Capture → Capture
  | part v => part v.contents
  | column entries => column (contentsEntries entries)
  | record fields => record (contentsFields fields)

def contentsEntries : List Capture → List Capture
  | [] => []
  | c :: cs => c.contents :: contentsEntries cs

def contentsFields : List (String × Capture) → List (String × Capture)
  | [] => []
  | (k, c) :: fs => (k, c.contents) :: contentsFields fs

end

theorem contentsEntries_eq_map (cs : List Capture) : contentsEntries cs = cs.map contents := by
  induction cs with
  | nil => rfl
  | cons c cs ih => rw [contentsEntries, List.map_cons, ih]

theorem contentsFields_eq_map (fields : Props Capture) :
    contentsFields fields = fields.map fun f => (f.1, f.2.contents) := by
  induction fields with
  | nil => rfl
  | cons f fields ih =>
      obtain ⟨k, c⟩ := f
      rw [contentsFields, List.map_cons, ih]

open Value (toJsonItems toJsonProps)

/- The identities that columns and records are given do not show in their JSON form, so they may be
drawn from anywhere. -/

mutual

/-- What JSON shows of a capture does not depend on the identities that its columns and records are
given. -/
theorem toJson_build_contents (c : Capture) (next next' : Nat) :
    (c.contents.build next).1.toJson = (c.build next').1.toJson := by
  cases c with
  | part v => exact v.toJson_contents
  | column entries => exact congrArg Json.array (toJson_buildEntries_contents entries next next')
  | record fields => exact congrArg Json.object (toJson_buildFields_contents fields next next')

theorem toJson_buildEntries_contents (cs : List Capture) (next next' : Nat) :
    toJsonItems (buildEntries (contentsEntries cs) next).1 =
      toJsonItems (buildEntries cs next').1 := by
  cases cs with
  | nil => rfl
  | cons c cs =>
      rw [contentsEntries, buildEntries, buildEntries, toJsonItems, toJsonItems,
        toJson_build_contents c next next', toJson_buildEntries_contents cs _ (c.build next').2]

theorem toJson_buildFields_contents (fields : List (String × Capture)) (next next' : Nat) :
    toJsonProps (buildFields (contentsFields fields) next).1 =
      toJsonProps (buildFields fields next').1 := by
  cases fields with
  | nil => rfl
  | cons f fields =>
      obtain ⟨k, c⟩ := f
      rw [contentsFields, buildFields, buildFields, toJsonProps, toJsonProps,
        toJson_build_contents c next next', toJson_buildFields_contents fields _ (c.build next').2]

end

/-- Captures of the same contents are written in the same way. -/
theorem toJson_eq_of_contents_eq {c d : Capture} (h : c.contents = d.contents) :
    c.toValue.toJson = d.toValue.toJson :=
  calc c.toValue.toJson = c.contents.toValue.toJson := (toJson_build_contents c _ _).symm
    _ = d.contents.toValue.toJson := by rw [h]
    _ = d.toValue.toJson := toJson_build_contents d _ _

end Capture

/-! ## selections -/

namespace Selections

/-- The contents of every capture. -/
def contents (s : Selections) : Selections where
  anonymous := s.anonymous.map Capture.contents
  named := ⟨s.named.pairs.map fun p => (p.1, p.2.contents), Props.sorted_map s.named.sorted⟩

/-- What is held under a key is held in the contents, reduced to its own. -/
theorem get?_contents (s : Selections) (key : SelectionKey) :
    s.contents.get? key = (s.get? key).map Capture.contents := by
  cases key with
  | anonymous => rfl
  | named name => exact Props.lookup_map Capture.contents name s.named.pairs

theorem contains_contents (s : Selections) (key : SelectionKey) :
    s.contents.contains key = s.contains key := by
  rw [contains, get?_contents, Option.isSome_map, contains]

/-- A cell of a column has the contents of what stands in it. -/
theorem cell_contents (row : Selections) (key : SelectionKey) :
    row.contents.cell key = (row.cell key).contents := by
  rw [cell, get?_contents, cell]
  cases row.get? key <;> rfl

theorem contents_record (s : Selections) (key : SelectionKey) (c : Capture) :
    (s.record key c).contents = s.contents.record key c.contents := by
  apply ext_get?
  intro k
  rw [get?_contents, get?_record, get?_record, get?_contents]
  split <;> rfl

/-- The contents of merged selections are the merged contents. -/
theorem contents_merge (s t : Selections) :
    (s.merge t).contents = s.contents.merge t.contents := by
  apply ext_get?
  intro k
  rw [get?_contents, get?_merge, get?_merge, get?_contents, get?_contents]
  cases t.get? k <;> rfl

theorem contents_recordUndefined (s : Selections) (keys : List SelectionKey) :
    (s.recordUndefined keys).contents = s.contents.recordUndefined keys :=
  (List.foldl_hom contents fun s key => (contents_record s key .undefined).symm).symm

/-- Keys that are filled up with `undefined` are filled up in the contents alike. -/
theorem contents_recordMissing (s branch : Selections) (keys : List SelectionKey) :
    (s.recordMissing branch keys).contents = s.contents.recordMissing branch.contents keys := by
  refine (List.foldl_hom contents fun s key => ?_).symm
  rw [contains_contents]
  split
  case isTrue => rfl
  case isFalse => exact (contents_record s key .undefined).symm

/-- The columns of some rows have the contents that the columns of their contents have. -/
theorem contents_recordColumns (s : Selections) (rows : List Selections)
    (keys : List SelectionKey) :
    (s.recordColumns rows keys).contents =
      s.contents.recordColumns (rows.map contents) keys := by
  refine (List.foldl_hom contents fun s key => ?_).symm
  rw [contents_record, Capture.contents, Capture.contentsEntries_eq_map, List.map_map, List.map_map]
  simp only [Function.comp_def, cell_contents]

/-- Putting the parts together and taking contents may be done in either order. -/
theorem gather_map_contents (os : List (Option Selections)) :
    gather (os.map (Option.map contents)) = (gather os).map contents := by
  induction os with
  | nil => rfl
  | cons o os ih =>
      rw [List.map_cons, gather, gather, ih]
      cases o with
      | none => rfl
      | some s =>
          rw [Option.map_some, Option.bind_some, Option.bind_some, Option.map_map, Option.map_map]
          congr 1
          funext t
          exact (contents_merge s t).symm

/-- The first result is the same one if every result is reduced to its contents. -/
theorem findSome?_contents {β : Type u} {xs : List β} {f g : β → Option Selections}
    (h : ∀ x ∈ xs, f x = (g x).map contents) :
    xs.findSome? f = (xs.findSome? g).map contents := by
  induction xs with
  | nil => rfl
  | cons x xs ih =>
      obtain ⟨hx, hxs⟩ := List.forall_mem_cons.mp h
      rw [List.findSome?_cons, List.findSome?_cons, hx, ih hxs]
      cases g x <;> rfl

/-- What a case is handed for the contents. -/
theorem contents_argument (s : Selections) (subject : Value) :
    (s.argument subject).contents = s.contents.argument subject.contents := by
  unfold argument
  cases ha : s.anonymous with
  | some c => simp only [contents, ha, Option.map_some]
  | none =>
      have hempty : s.contents.named.isEmpty = s.named.isEmpty := List.isEmpty_map
      simp only [contents, ha, Option.map_none] at hempty ⊢
      rw [hempty]
      cases s.named.isEmpty with
      | true => rfl
      | false => exact congrArg Capture.record (Capture.contentsFields_eq_map s.named.pairs)

end Selections

/-! ## patterns -/

namespace Pattern

/-- Matching the contents of a value captures the contents of what matching the value captures. -/
def SeesContents (p : Pattern) : Prop :=
  ∀ v : Value, p.match? v.contents = (p.match? v).map Selections.contents

variable {p : Pattern} {ps : List Pattern}

/-- A pattern that captures by the contents of a value decides by them too. -/
theorem matches_contents (h : p.SeesContents) (v : Value) : p.matches v.contents = p.matches v := by
  rw [matches_eq, h v, Option.isSome_map, matches_eq]

/-- A field captures the contents of what it captures of its property, and a property that is absent
is absent from the contents too. -/
theorem matchField?_contents {f : String × Pattern} (h : f.2.SeesContents) (props : Props Value) :
    matchField? f (props.map fun p => (p.1, p.2.contents)) =
      (matchField? f props).map Selections.contents := by
  rw [matchField?, Props.lookup_map, matchField?]
  cases props.lookup f.1 with
  | some v => exact h v
  | none =>
      simp only [Option.map_none]
      split
      case isTrue => exact h .undefined
      case isFalse => rfl

/-- Parts matched place by place capture the contents of what they capture. -/
theorem zipWith_contents (h : ∀ q ∈ ps, q.SeesContents) (vs : List Value) :
    List.zipWith match? ps (vs.map Value.contents) =
      (List.zipWith match? ps vs).map (Option.map Selections.contents) := by
  induction ps generalizing vs with
  | nil => rfl
  | cons p ps ih =>
      cases vs with
      | nil => rfl
      | cons v vs =>
          obtain ⟨hp, hps⟩ := List.forall_mem_cons.mp h
          rw [List.map_cons, List.zipWith_cons_cons, hp v, ih hps, List.zipWith_cons_cons,
            List.map_cons]

/-- Elements matched one by one capture the contents of what they capture. -/
theorem mapM_contents (h : p.SeesContents) (vs : List Value) :
    (vs.map Value.contents).mapM p.match? =
      (vs.mapM p.match?).map (List.map Selections.contents) := by
  induction vs with
  | nil => rfl
  | cons v vs ih =>
      rw [List.map_cons, List.mapM_cons, List.mapM_cons, h v, ih]
      cases p.match? v with
      | none => rfl
      | some s => cases vs.mapM p.match? <;> rfl

theorem writable_of_mem_parts (h : WritableParts ps) : ∀ q ∈ ps, q.Writable := by
  induction ps with
  | nil => exact List.forall_mem_nil _
  | cons p ps ih => exact List.forall_mem_cons.mpr ⟨h.1, ih h.2⟩

theorem writable_of_mem_fields {fields : List (String × Pattern)} (h : WritableFields fields) :
    ∀ q ∈ fields.map Prod.snd, q.Writable := by
  induction fields with
  | nil => exact List.forall_mem_nil _
  | cons f fields ih => exact List.forall_mem_cons.mpr ⟨h.1, ih h.2⟩

/-- The parts of a pattern that can be written can be written. -/
theorem writable_of_mem_children (h : p.Writable) : ∀ q ∈ p.children, q.Writable := by
  cases p with
  | select key inner =>
      cases inner with
      | none => exact List.forall_mem_nil _
      | some q => exact List.forall_mem_singleton.mpr h
  | object fields => exact writable_of_mem_fields h.2.2
  | tuple ps | all ps | any ps => exact writable_of_mem_parts h
  | each q | not q | optional q => exact List.forall_mem_singleton.mpr h
  | literal _ | wildcard | kind _ | when _ => exact List.forall_mem_nil _

/-- A pattern that can be written sees nothing but contents. -/
theorem match?_contents (hp : p.Writable) : p.SeesContents := by
  -- only literals and tests look at the value itself: the former are scalars, and the latter cannot
  -- be written
  induction p using childInduction with
  | h p ih =>
      intro v
      have hq : ∀ q ∈ p.children, q.SeesContents := fun q hq =>
        ih q hq (writable_of_mem_children hp q hq)
      cases p with
      | literal w =>
          rw [match?, matchInto, Value.strictEquals_contents hp, match?, matchInto]
          cases w.strictEquals v <;> rfl
      | wildcard => rfl
      | select key inner =>
          cases inner with
          | none =>
              rw [match?_select_none, match?_select_none, Option.map_some,
                Selections.contents_record]
              rfl
          | some q =>
              rw [match?_select_some, match?_select_some, hq q List.mem_cons_self v, Option.map_map,
                Option.map_map]
              congr 1
              funext s
              exact (Selections.contents_record s key (.part v)).symm
      | object fields =>
          rw [match?_object, match?_object, Value.props?_contents]
          cases v.props? with
          | none => rfl
          | some props =>
              rw [Option.map_some, Option.bind_some, Option.bind_some,
                ← Selections.gather_map_contents, List.map_map]
              congr 1
              exact List.map_congr_left fun f hf =>
                matchField?_contents (hq f.2 (List.mem_map_of_mem hf)) props
      | tuple ps =>
          have hparts : ∀ q ∈ ps, q.SeesContents := hq
          rw [match?_tuple, match?_tuple, Value.items?_contents]
          cases v.items? with
          | none => rfl
          | some items =>
              rw [Option.map_some, Option.bind_some, Option.bind_some, List.length_map,
                zipWith_contents hparts, Selections.gather_map_contents]
              split <;> rfl
      | each q =>
          rw [match?_each, match?_each, Value.items?_contents]
          cases v.items? with
          | none => rfl
          | some items =>
              rw [Option.map_some, Option.bind_some, Option.bind_some,
                mapM_contents (hq q List.mem_cons_self), Option.map_map, Option.map_map]
              congr 1
              funext rows
              exact (Selections.contents_recordColumns ∅ rows q.keys).symm
      | not q =>
          rw [match?_not, match?_not, matches_contents (hq q List.mem_cons_self)]
          split <;> rfl
      | all ps =>
          rw [match?_all, match?_all, ← Selections.gather_map_contents, List.map_map]
          congr 1
          exact List.map_congr_left fun q hmem => hq q hmem v
      | any ps =>
          have hbranch : (ps.findSome? fun q => q.match? v.contents) =
              (ps.findSome? fun q => q.match? v).map Selections.contents :=
            Selections.findSome?_contents fun q hmem => hq q hmem v
          rw [match?_any, match?_any, hbranch, Option.map_map, Option.map_map]
          congr 1
          funext branch
          have hmissing := Selections.contents_recordMissing ∅ branch
          exact ((Selections.contents_merge _ branch).trans
            (congrArg (·.merge branch.contents) (hmissing _))).symm
      | optional q =>
          rw [match?_optional, match?_optional, Value.isUndefined_contents]
          split
          case isTrue =>
              exact congrArg some (Selections.contents_recordUndefined ∅ q.keys).symm
          case isFalse => exact hq q List.mem_cons_self v
      | kind k =>
          rw [match?, matchInto, Value.kind_contents, match?, matchInto]
          cases v.kind == k <;> rfl
      | when test => exact hp.elim

end Pattern

/-! ## written cases -/

/-- What a case is handed for the contents is written in the same way. -/
theorem Selections.toJson_argument_contents (s : Selections) (subject : Value) :
    (s.contents.argument subject.contents).toValue.toJson =
      (s.argument subject).toValue.toJson := by
  rw [← contents_argument]
  exact Capture.toJson_build_contents _ _ _

namespace CaseSpec

variable {spec : CaseSpec} {j : Json}

/-- A written pattern captures the contents of what it captures. -/
theorem captures?_contents (hj : j.Ordered) (v : Value) :
    captures? v.contents j = (captures? v j).map Selections.contents := by
  unfold captures?
  cases hp : Pattern.ofJson j with
  | error fault => rfl
  | ok p => exact Pattern.match?_contents (Pattern.writable_of_ofJson j hj p hp) v

/-- A written guard holds of the contents iff it holds of the value. -/
theorem holds_contents (hj : j.Ordered) (v : Value) : holds v.contents j = holds v j := by
  unfold holds
  cases hp : Pattern.ofJson j with
  | error fault => rfl
  | ok p =>
      have hsees := Pattern.match?_contents (Pattern.writable_of_ofJson j hj p hp)
      exact Pattern.matches_contents hsees v

/-- The first written alternative that matches is the same one, with the contents of its
captures. -/
theorem firstCaptures?_contents (hspec : ∀ j ∈ spec.written, j.Ordered) (v : Value) :
    spec.firstCaptures? v.contents = (spec.firstCaptures? v).map Selections.contents := by
  unfold firstCaptures?
  cases hw : spec.written with
  | nil => rfl
  | cons j js =>
      rw [hw] at hspec
      exact Selections.findSome?_contents fun k hk => captures?_contents (hspec k hk) v

/-- What a written case makes of its captures shows their contents only. -/
theorem output_contents (spec : CaseSpec) (v : Value) (s : Selections) :
    spec.output v.contents s.contents = spec.output v s := by
  unfold output
  cases spec.result with
  | some j => rfl
  | none => exact s.toJson_argument_contents v

/-- A written case makes of a value what it makes of the contents. -/
theorem reading?_contents (hspec : ∀ j ∈ spec.written ++ spec.conditions, j.Ordered) (v : Value) :
    spec.reading? v.contents = spec.reading? v := by
  obtain ⟨hwritten, hconditions⟩ := List.forall_mem_append.mp hspec
  have hholds : spec.conditions.all (holds v.contents) = spec.conditions.all (holds v) := by
    rw [Bool.eq_iff_iff, List.all_eq_true, List.all_eq_true]
    exact forall₂_congr fun j hj => by rw [holds_contents (hconditions j hj)]
  rw [reading?, hholds, firstCaptures?_contents hwritten, reading?, Option.map_map]
  split
  case isTrue =>
      congr 1
      funext s
      exact output_contents spec v s
  case isFalse => rfl

end CaseSpec

end Casebook
