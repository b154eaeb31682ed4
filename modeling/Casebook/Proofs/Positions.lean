import Casebook.Proofs.ApartParts
import Casebook.Proofs.Occurrences

/-!
# Casebook.Proofs.Positions

What each selection captures, read off its place in the pattern.  The nodes on the way to it say how
to get from the subject to the part that is captured: an object shape steps to a property, a tuple
to an item, and an array match goes on with every item.

* `Pattern.route` — the steps that lead to a place;
* `Value.capturedAt` — what they lead to in a value, with `capturedAt_undefined`;
* `mem_nodes_of_capturedAt` — apart from columns this is made of parts of the value itself;
* `get?_of_live` — a match captures what the steps lead to, by induction on the path;
* `get?_eq_capturedAt` — so does every pattern that keeps the rules and captures no name twice.
-/

namespace Casebook

/-- A step from a value to a part of it, or to all its items. -/
inductive Step where
  | property (name : String)
  | item (index : Nat)
  | everyItem

/-! ## what steps lead to -/

namespace Value

/-- What some steps lead to.  What is absent is `undefined`, and behind every item stands a column
with an entry for each. -/
def capturedAt : Value → List Step → Capture
  | v, [] => .part v
  | v, .property name :: steps => capturedAt ((v.get? name).getD undefined) steps
  | v, .item index :: steps => capturedAt ((v.items?.bind (·[index]?)).getD undefined) steps
  | v, .everyItem :: steps =>
      match v.items? with
      | some items => .column (items.map fun w => capturedAt w steps)
      | none => .undefined

/-- There is nothing behind a value that is absent, whatever the steps. -/
theorem capturedAt_undefined (steps : List Step) : undefined.capturedAt steps = .undefined := by
  induction steps with
  | nil => rfl
  | cons step steps ih =>
      cases step with
      | property name => exact ih
      | item index => exact ih
      | everyItem => rfl

end Value

/-! ## identities -/

namespace Capture

mutual

/-- The values that a capture is made of. -/
def parts : Capture → List Value
  | part v => [v]
  | column entries => partsEntries entries
  | record fields => partsFields fields

def partsEntries : List Capture → List Value
  | [] => []
  | c :: cs => c.parts ++ partsEntries cs

def partsFields : List (String × Capture) → List Value
  | [] => []
  | (_, c) :: fs => c.parts ++ partsFields fs

end

/-- The parts of a column are those of its entries. -/
theorem mem_partsEntries {w : Value} {entries : List Capture} :
    w ∈ partsEntries entries ↔ ∃ c ∈ entries, w ∈ c.parts := by
  induction entries with
  | nil => simp [partsEntries]
  | cons c cs ih =>
      rw [partsEntries, List.mem_append, ih]
      simp only [List.mem_cons, or_and_right, exists_or, exists_eq_left]

end Capture

namespace Value

variable {u v w : Value}

/-- An array or object is a node of itself. -/
theorem mem_nodes_self {i : Nat} (h : v.identity? = some i) : v ∈ v.nodes := by
  cases v with
  | array _ _ | object _ _ => exact List.mem_cons_self
  | undefined | null | bool _ | number _ | string _ => cases h

/-- The nodes of an item are nodes of the array. -/
theorem mem_nodes_of_item {items : List Value} (hv : v.items? = some items) (hw : w ∈ items)
    (hu : u ∈ w.nodes) : u ∈ v.nodes := by
  have hitems : u ∈ nodesItems items := by
    clear hv
    induction items with
    | nil => cases hw
    | cons x xs ih =>
        rw [nodesItems, List.mem_append]
        rcases List.mem_cons.mp hw with rfl | hw
        · exact .inl hu
        · exact .inr (ih hw)
  cases v with
  | array _ _ =>
      obtain rfl := Option.some.inj hv
      exact List.mem_cons_of_mem _ hitems
  | undefined | null | bool _ | number _ | string _ | object _ _ => cases hv

/-- The nodes of a property are nodes of the object. -/
theorem mem_nodes_of_property {name : String} (hv : v.get? name = some w) (hu : u ∈ w.nodes) :
    u ∈ v.nodes := by
  obtain ⟨props, hprops, hw⟩ := Option.bind_eq_some_iff.mp hv
  have hnodes : u ∈ nodesProps props := by
    clear hv hprops
    induction props with
    | nil => cases hw
    | cons prop props ih =>
        obtain ⟨k, x⟩ := prop
        rw [nodesProps, List.mem_append]
        rw [Props.lookup_cons] at hw
        split at hw
        case isTrue => exact .inl (Option.some.inj hw ▸ hu)
        case isFalse => exact .inr (ih hw)
  cases v with
  | object _ _ =>
      obtain rfl := Option.some.inj hprops
      exact List.mem_cons_of_mem _ hnodes
  | undefined | null | bool _ | number _ | string _ | array _ _ => cases hprops

/-- Every array and object that a capture hands on is one of the value, identity and all. -/
theorem mem_nodes_of_capturedAt {steps : List Step} {i : Nat}
    (hw : w ∈ (v.capturedAt steps).parts) (hi : w.identity? = some i) : w ∈ v.nodes := by
  induction steps generalizing v with
  | nil =>
      obtain rfl : w = v := List.mem_singleton.mp hw
      exact mem_nodes_self hi
  | cons step steps ih =>
      cases step with
      | property name =>
          rw [capturedAt] at hw
          cases hx : v.get? name with
          | none =>
              rw [hx, Option.getD_none, capturedAt_undefined] at hw
              obtain rfl := List.mem_singleton.mp hw
              cases hi
          | some x =>
              rw [hx] at hw
              exact mem_nodes_of_property hx (ih hw)
      | item index =>
          rw [capturedAt] at hw
          cases hx : v.items?.bind (·[index]?) with
          | none =>
              rw [hx, Option.getD_none, capturedAt_undefined] at hw
              obtain rfl := List.mem_singleton.mp hw
              cases hi
          | some x =>
              rw [hx] at hw
              obtain ⟨items, hitems, hget⟩ := Option.bind_eq_some_iff.mp hx
              exact mem_nodes_of_item hitems (List.mem_of_getElem? hget) (ih hw)
      | everyItem =>
          rw [capturedAt] at hw
          cases hitems : v.items? with
          | none =>
              rw [hitems] at hw
              obtain rfl := List.mem_singleton.mp hw
              cases hi
          | some items =>
              rw [hitems] at hw
              obtain ⟨c, hc, hwc⟩ := Capture.mem_partsEntries.mp hw
              obtain ⟨x, hx, rfl⟩ := List.mem_map.mp hc
              exact mem_nodes_of_item hitems hx (ih hwc)

end Value

namespace Pattern

/-- How to get from the value that a pattern sees to the one its child sees. -/
def steps : Pattern → Nat → List Step
  | object fields, i => (fields[i]?.map fun f => Step.property f.1).toList
  | tuple _, i => [.item i]
  | each _, _ => [.everyItem]
  | _, _ => []

/-- How to get from the subject to what the node at the end of a path sees. -/
def route (p : Pattern) : List Nat → List Step
  | [] => []
  | i :: path =>
      match p.children[i]? with
      | some q => p.steps i ++ route q path
      | none => []

variable {p q : Pattern} {key : SelectionKey} {v : Value} {s : Selections} {i : Nat}
  {path : List Nat}

/-- The route along a path starts with the steps to the child. -/
theorem route_cons (h : p.children[i]? = some q) :
    p.route (i :: path) = p.steps i ++ q.route path := by
  rw [route, h]

/-! ## from a pattern to a child -/

/- In a pattern that captures no key twice, what a child captures is not written over: not by the
selection around it, and not by the other children. -/

/-- Under a key of its inner pattern, a selection captures what that pattern does. -/
theorem get?_of_select {outer : SelectionKey} (hr : (select outer (some q)).census.NoRepeats)
    (hs : (select outer (some q)).match? v = some s) (hkey : key ∈ q.keys) :
    ∃ t, q.match? v = some t ∧ s.get? key = t.get? key := by
  rw [match?_select_some] at hs
  obtain ⟨t, ht, rfl⟩ := Option.map_eq_some_iff.mp hs
  have hne : outer ≠ key := fun he => not_mem_keys_of_noRepeats hr (he ▸ hkey)
  exact ⟨t, ht, by rw [Selections.get?_record, if_neg hne]⟩

/-- Under a key of one of its fields, an object shape captures what the field does of the property,
or of `undefined` where there is none. -/
theorem get?_of_object {fields : List (String × Pattern)} {f : String × Pattern}
    (hr : (object fields).census.NoRepeats) (hs : (object fields).match? v = some s)
    (hf : f ∈ fields) (hkey : key ∈ f.2.keys) :
    ∃ t, f.2.match? ((v.get? f.1).getD .undefined) = some t ∧ s.get? key = t.get? key := by
  rw [match?_object] at hs
  obtain ⟨props, hprops, hs⟩ := Option.bind_eq_some_iff.mp hs
  have hmem : matchField? f props ∈ fields.map fun f => matchField? f props :=
    List.mem_map_of_mem hf
  obtain ⟨t, hfield⟩ := Selections.exists_of_gather hs hmem
  have ht := match?_of_matchField? hfield
  refine ⟨t, ?_, Selections.get?_gather hs (apart_fields (apart_children rfl rfl hr) props)
    (hfield ▸ hmem) ((contains_match? ht key).mpr hkey)⟩
  rw [Value.get?, hprops]
  exact ht

/-- Under a key of one of its parts, a tuple captures what the part does of its item. -/
theorem get?_of_tuple {ps : List Pattern} (hr : (tuple ps).census.NoRepeats)
    (hs : (tuple ps).match? v = some s) (hq : ps[i]? = some q) (hkey : key ∈ q.keys) :
    ∃ t, q.match? ((v.items?.bind (·[i]?)).getD .undefined) = some t ∧
      s.get? key = t.get? key := by
  rw [match?_tuple] at hs
  obtain ⟨items, hitems, hs⟩ := Option.bind_eq_some_iff.mp hs
  split at hs
  case isTrue hlength =>
      obtain ⟨hi, rfl⟩ := List.getElem?_eq_some_iff.mp hq
      have hi' : i < items.length := hlength ▸ hi
      have hmem : ps[i].match? items[i] ∈ List.zipWith match? ps items := by
        rw [List.mem_iff_getElem]
        refine ⟨i, ?_, List.getElem_zipWith⟩
        rw [List.length_zipWith, hlength, Nat.min_self]
        exact hi
      obtain ⟨t, ht⟩ := Selections.exists_of_gather hs hmem
      refine ⟨t, ?_, Selections.get?_gather hs (apart_zipWith (apart_children rfl rfl hr) items)
        (ht ▸ hmem) ((contains_match? ht key).mpr hkey)⟩
      rw [hitems, Option.bind_some, List.getElem?_eq_getElem hi']
      exact ht
  case isFalse => cases hs

/-- Under a key of one of its parts, a conjunction captures what the part does. -/
theorem get?_of_all {ps : List Pattern} (hr : (all ps).census.NoRepeats)
    (hs : (all ps).match? v = some s) (hq : q ∈ ps) (hkey : key ∈ q.keys) :
    ∃ t, q.match? v = some t ∧ s.get? key = t.get? key := by
  rw [match?_all] at hs
  have hmem : q.match? v ∈ ps.map fun p => p.match? v := List.mem_map_of_mem hq
  obtain ⟨t, ht⟩ := Selections.exists_of_gather hs hmem
  exact ⟨t, ht, Selections.get?_gather hs (apart_map (apart_children rfl rfl hr) v)
    (ht ▸ hmem) ((contains_match? ht key).mpr hkey)⟩

/-- If the cell of a row is a function of its item, the column is that function of the items. -/
theorem map_cell_eq {items : List Value} {rows : List Selections} {f : Value → Capture}
    (hf : ∀ item row, q.match? item = some row → row.cell key = f item)
    (h : items.mapM q.match? = some rows) : rows.map (fun row => row.cell key) = items.map f := by
  have hrows := forall₂_of_mapM h
  clear h
  induction hrows with
  | nil => rfl
  | cons hrow _ ih => rw [List.map_cons, List.map_cons, hf _ _ hrow, ih]

/-- If every item captures what a function makes of it, all together capture the column of that. -/
theorem get?_of_each {f : Value → Capture} (hs : (each q).match? v = some s) (hkey : key ∈ q.keys)
    (hf : ∀ item row, q.match? item = some row → row.get? key = some (f item)) :
    ∃ items, v.items? = some items ∧ s.get? key = some (.column (items.map f)) := by
  rw [match?_each] at hs
  obtain ⟨items, hitems, hs⟩ := Option.bind_eq_some_iff.mp hs
  obtain ⟨rows, hrows, rfl⟩ := Option.map_eq_some_iff.mp hs
  refine ⟨items, hitems, ?_⟩
  have hcell : ∀ item row, q.match? item = some row → row.cell key = f item := by
    intro item row hrow
    rw [Selections.cell, hf item row hrow, Option.getD_some]
  rw [Selections.recordColumns, Selections.get?_foldl_record, if_pos hkey, map_cell_eq hcell hrows]

/-! ## from the root to a place -/

/-- A match captures at a place what the steps lead to. -/
theorem get?_of_live (hr : p.census.NoRepeats) (hs : p.match? v = some s)
    (hlive : p.Live path key) (hchoice : Along (fun q => q.isChoice = false) p path) :
    s.get? key = some (v.capturedAt (p.route path)) := by
  induction path generalizing p v s with
  | nil =>
      obtain ⟨inner, rfl⟩ := live_nil.mp hlive
      cases inner with
      | none =>
          rw [match?_select_none] at hs
          obtain rfl := Option.some.inj hs
          exact (Selections.get?_record ..).trans (if_pos rfl)
      | some q =>
          rw [match?_select_some] at hs
          obtain ⟨t, -, rfl⟩ := Option.map_eq_some_iff.mp hs
          exact (Selections.get?_record ..).trans (if_pos rfl)
  | cons i path ih =>
      obtain ⟨q, hq, hneg, hlive'⟩ := exists_child_of_live hlive
      obtain ⟨hroot, hbelow⟩ := (along_cons hq).mp hchoice
      have hmem : q ∈ p.children := List.mem_of_getElem? hq
      have hrq : q.census.NoRepeats := noRepeats_of_mem_children hneg hr q hmem
      have hkey : key ∈ q.keys := (mem_keys_iff_selects q key).mpr ⟨path, hlive'⟩
      rw [route_cons hq]
      cases p with
      | select outer inner =>
          cases inner with
          | none => cases hq
          | some r =>
              obtain rfl : q = r := List.mem_singleton.mp hmem
              obtain ⟨t, ht, hget⟩ := get?_of_select hr hs hkey
              rw [hget, ih hrq ht hlive' hbelow]
              rfl
      | object fields =>
          obtain ⟨f, hf, rfl⟩ : ∃ f, fields[i]? = some f ∧ f.2 = q := by
            rwa [children, List.getElem?_map, Option.map_eq_some_iff] at hq
          obtain ⟨t, ht, hget⟩ := get?_of_object hr hs (List.mem_of_getElem? hf) hkey
          rw [hget, ih hrq ht hlive' hbelow, steps, hf]
          rfl
      | tuple ps =>
          obtain ⟨t, ht, hget⟩ := get?_of_tuple hr hs hq hkey
          rw [hget, ih hrq ht hlive' hbelow]
          rfl
      | each r =>
          obtain rfl : q = r := List.mem_singleton.mp hmem
          obtain ⟨items, hitems, hget⟩ := get?_of_each hs hkey fun item row hrow =>
            ih hrq hrow hlive' hbelow
          rw [hget, steps, List.singleton_append, Value.capturedAt, hitems]
      | all ps =>
          obtain ⟨t, ht, hget⟩ := get?_of_all hr hs hmem hkey
          rw [hget, ih hrq ht hlive' hbelow]
          rfl
      | optional r =>
          obtain rfl : q = r := List.mem_singleton.mp hmem
          rw [match?_optional] at hs
          split at hs
          case isTrue hv =>
              -- no step leads out of `undefined`
              obtain rfl : v = .undefined := by cases v <;> first | rfl | cases hv
              obtain rfl := Option.some.inj hs
              rw [Value.capturedAt_undefined, Selections.recordUndefined,
                Selections.get?_foldl_record, if_pos hkey]
          case isFalse =>
              rw [ih hrq hs hlive' hbelow]
              rfl
      | not _ => cases hneg
      | any _ => cases hroot
      | literal _ | wildcard | kind _ | when _ => cases hq

/-- **A selection captures what stands at its place.**  In a pattern that keeps the rules and
captures no name twice, a selection outside every negation and alternative captures the part of the
subject that the nodes on the way to it lead to, with a column for every array match among them.
The arrays and objects in the capture are those of the subject. -/
theorem get?_eq_capturedAt (hp : p.validate = .ok []) (hs : p.match? v = some s)
    (hlive : p.Live path key) (hchoice : Along (fun q => q.isChoice = false) p path) :
    s.get? key = some (v.capturedAt (p.route path)) ∧
      ∀ w ∈ (v.capturedAt (p.route path)).parts, w.identity? ≠ none → w ∈ v.nodes := by
  refine ⟨get?_of_live (noRepeats_of_validate hp) hs hlive hchoice, fun w hw hne => ?_⟩
  obtain ⟨i, hi⟩ := Option.ne_none_iff_exists'.mp hne
  exact Value.mem_nodes_of_capturedAt hw hi

/-- A property of every item of a list that may lack some, beside a pair. -/
def listAndPair : Pattern :=
  object [("list", each (optional (object [("id", select (.named "ids") none)]))),
    ("pair", tuple [any [kind .null, select (.named "first") none],
      select (.named "second") (some (not (select (.named "third") (some (kind .string)))))])]

/-- The list has one item that is absent. -/
def someItems : Value :=
  .object 0 [("list", .array 1 [.object 2 [("id", .array 3 [])], .undefined]),
    ("pair", .array 4 [.null, .null])]

/-- The `ids` of a list with one absent item: the first entry is the very array that the item holds,
the second one is `undefined`. -/
theorem get?_eq_capturedAt_listAndPair :
    ∃ s, listAndPair.validate = .ok [] ∧ listAndPair.match? someItems = some s ∧
      listAndPair.Live [0, 0, 0, 0] (.named "ids") ∧
      listAndPair.route [0, 0, 0, 0] = [.property "list", .everyItem, .property "id"] ∧
      s.get? (.named "ids") = some (.column [.part (.array 3 []), .undefined]) ∧
      .array 3 [] ∈ someItems.nodes := by
  have hlive : listAndPair.Live [0, 0, 0, 0] (.named "ids") :=
    ⟨⟨none, rfl⟩, (along_cons rfl).mpr ⟨rfl, (along_cons rfl).mpr ⟨rfl, (along_cons rfl).mpr
      ⟨rfl, (along_cons rfl).mpr ⟨rfl, along_nil.mpr rfl⟩⟩⟩⟩⟩
  have hchoice : Along (fun q => q.isChoice = false) listAndPair [0, 0, 0, 0] :=
    (along_cons rfl).mpr ⟨rfl, (along_cons rfl).mpr ⟨rfl, (along_cons rfl).mpr
      ⟨rfl, (along_cons rfl).mpr ⟨rfl, along_nil.mpr rfl⟩⟩⟩⟩
  have hsome : (listAndPair.match? someItems).isSome = true := rfl
  obtain ⟨s, hs⟩ := Option.isSome_iff_exists.mp hsome
  obtain ⟨hget, hnodes⟩ := get?_eq_capturedAt rfl hs hlive hchoice
  exact ⟨s, rfl, hs, hlive, rfl, hget, hnodes _ List.mem_cons_self (by simp [Value.identity?])⟩

end Pattern

end Casebook
