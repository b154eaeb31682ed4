import Casebook.Document.PatternCode
import Casebook.Proofs.WrittenCase

/-!
# Casebook.Proofs.WritablePatterns

The patterns that JSON can write, exactly: a pattern is read off some JSON value iff every
node of it can be written.  Only three nodes set a condition.  There is no way to write a test;
a literal is null, a boolean, a finite number or a string; an object shape lists its fields
by name, each once, and not all names start with `$`, which would make it a matcher.

* `Pattern.Matcher` — the members that write a matcher, and what they write;
* `Pattern.Writable` — the condition on every node;
* `Pattern.toJson` — a way to write such a pattern;
* `writable_of_ofJson`, `ofJson_toJson` — both directions;
* `exists_ofJson_iff_writable` — the patterns that can be written.
-/

namespace Casebook

universe u v

namespace Props

variable {α : Type u} {β : Type v}

/-- Whether properties are sorted is a matter of their keys alone. -/
theorem sorted_of_keys_eq {ps : Props α} {qs : Props β} (h : keys ps = keys qs)
    (hp : Sorted ps) : Sorted qs := by
  have hkeys : (keys ps).Pairwise (· < ·) := List.pairwise_map.mpr hp
  rw [h] at hkeys
  exact List.pairwise_map.mp hkeys

end Props

namespace Pattern

/-! ## matchers -/

/-- The members of an object that write a pattern as a matcher. -/
inductive Matcher : Props Json → Pattern → Prop
  | wildcard : Matcher [("$any", .bool true)] wildcard
  | select {arg : Json} {key : SelectionKey} :
      keyOfJson arg = .ok key → Matcher [("$select", arg)] (select key none)
  | selectIn {inner arg : Json} {key : SelectionKey} {p : Pattern} :
      ofJson inner = .ok p → keyOfJson arg = .ok key →
        Matcher [("$in", inner), ("$select", arg)] (select key (some p))
  | not {arg : Json} {p : Pattern} : ofJson arg = .ok p → Matcher [("$not", arg)] (not p)
  | all {items : List Json} {ps : List Pattern} :
      ofJsonItems items = .ok ps → Matcher [("$and", .array items)] (all ps)
  | any {items : List Json} {ps : List Pattern} :
      ofJsonItems items = .ok ps → Matcher [("$or", .array items)] (any ps)
  | optional {arg : Json} {p : Pattern} :
      ofJson arg = .ok p → Matcher [("$optional", arg)] (optional p)
  | each {arg : Json} {p : Pattern} : ofJson arg = .ok p → Matcher [("$array", arg)] (each p)
  | kind {arg : Json} {p : Pattern} : kindOfJson arg = .ok p → Matcher [("$kind", arg)] p

variable {members : Props Json} {p : Pattern}

/-- Every object that writes a matcher is taken for one. -/
theorem isMatcher_of_matcher (h : Matcher members p) : isMatcher members = true := by
  cases h <;> simp [isMatcher]

/-- An object that writes a pattern as a matcher is read as that pattern. -/
theorem ofJson_of_matcher (h : Matcher members p) : ofJson (.object members) = .ok p := by
  have hm := isMatcher_of_matcher h
  rw [ofJson.eq_def]
  simp only [if_pos hm]
  cases h with
  | wildcard => rfl
  | select h | not h | optional h | each h | all h | any h | kind h =>
      simp [h, Except.map]
  | selectIn hinner harg => simp [harg, hinner, Except.map]

/-- Nothing else is read as a matcher. -/
theorem matcher_of_ofJson (hm : isMatcher members = true)
    (h : ofJson (.object members) = .ok p) : Matcher members p := by
  rw [ofJson.eq_def] at h
  simp only [if_pos hm] at h
  split at h
  case h_1 name arg hm' =>
      -- one key: the names are tried in turn
      split at h
      case isTrue hname =>
          subst hname
          split at h
          case h_1 =>
              obtain rfl := Except.ok.inj h
              exact .wildcard
          case h_2 => cases h
      split at h
      case isTrue hname =>
          subst hname
          obtain ⟨key, harg, rfl⟩ := map_eq_ok_iff.mp h
          exact .select harg
      split at h
      case isTrue hname =>
          subst hname
          obtain ⟨q, harg, rfl⟩ := map_eq_ok_iff.mp h
          exact .not harg
      split at h
      case isTrue hname =>
          subst hname
          split at h
          case h_1 =>
              obtain ⟨ps, hitems, rfl⟩ := map_eq_ok_iff.mp h
              exact .all hitems
          case h_2 => cases h
      split at h
      case isTrue hname =>
          subst hname
          split at h
          case h_1 =>
              obtain ⟨ps, hitems, rfl⟩ := map_eq_ok_iff.mp h
              exact .any hitems
          case h_2 => cases h
      split at h
      case isTrue hname =>
          subst hname
          obtain ⟨q, harg, rfl⟩ := map_eq_ok_iff.mp h
          exact .optional harg
      split at h
      case isTrue hname =>
          subst hname
          obtain ⟨q, harg, rfl⟩ := map_eq_ok_iff.mp h
          exact .each harg
      split at h
      case isTrue hname =>
          subst hname
          exact .kind h
      split at h
      case isTrue => cases h
      case isFalse => cases h
  case h_2 first inner second arg hm' =>
      split at h
      case isTrue hnames =>
          obtain ⟨rfl, rfl⟩ := hnames
          split at h
          case h_1 => cases h
          case h_2 key harg =>
              obtain ⟨q, hinner, rfl⟩ := map_eq_ok_iff.mp h
              exact .selectIn hinner harg
      case isFalse => cases h
  case h_3 => cases h

/-- A kind that is read is `nullish` or one of the kinds. -/
theorem exists_of_kindOfJson {arg : Json} (h : kindOfJson arg = .ok p) :
    p = nullish ∨ ∃ k, p = kind k := by
  unfold kindOfJson at h
  split at h
  case h_1 => exact .inl (Except.ok.inj h).symm
  case h_2 =>
      split at h
      case h_1 k _ => exact .inr ⟨k, (Except.ok.inj h).symm⟩
      case h_2 => cases h
  case h_3 => cases h

/-- Every kind is read back from its name. -/
theorem kindOfJson_name (k : Kind) : kindOfJson (.string k.name) = .ok (kind k) := by
  cases k <;> rfl

/-! ## object shapes -/

/-- Names that stand for fields: not all of them, and at least one, start with `$`. -/
def ShapeNames (names : List String) : Prop :=
  names = [] ∨ ∃ name ∈ names, name.startsWith "$" = false

/-- An object is no matcher exactly if its names are those of an object shape. -/
theorem isMatcher_eq_false_iff : isMatcher members = false ↔ ShapeNames (Props.keys members) := by
  have hkeys : isMatcher members =
      (!(Props.keys members).isEmpty && (Props.keys members).all (·.startsWith "$")) := by
    rw [Props.keys, List.isEmpty_map, List.all_map]
    rfl
  simp only [hkeys, ShapeNames, Bool.and_eq_false_iff, Bool.not_eq_eq_eq_not, Bool.not_false,
    List.isEmpty_iff, List.all_eq_false, Bool.not_eq_true]

/-- An object that is no matcher is read as an object shape, member by member. -/
theorem ofJson_object (h : ShapeNames (Props.keys members)) :
    ofJson (.object members) = (ofJsonMembers members).map object := by
  have hm : ¬ isMatcher members = true := by
    rw [isMatcher_eq_false_iff.mpr h]
    exact Bool.false_ne_true
  rw [ofJson.eq_def]
  simp only [if_neg hm]

/-- Members are read if the first one is and the rest are, and keep their names. -/
theorem ofJsonMembers_cons_eq_ok_iff {name : String} {j : Json} {fields : Props Pattern} :
    ofJsonMembers ((name, j) :: members) = .ok fields ↔
      ∃ p fields', ofJson j = .ok p ∧ ofJsonMembers members = .ok fields' ∧
        fields = (name, p) :: fields' := by
  rw [ofJsonMembers]
  cases ofJson j with
  | error fault => simp
  | ok p =>
      simp only [map_eq_ok_iff, Except.ok.injEq]
      grind

/-- Items are read if the first one is and the rest are. -/
theorem ofJsonItems_cons_eq_ok_iff {j : Json} {js : List Json} {ps : List Pattern} :
    ofJsonItems (j :: js) = .ok ps ↔
      ∃ p ps', ofJson j = .ok p ∧ ofJsonItems js = .ok ps' ∧ ps = p :: ps' := by
  rw [ofJsonItems]
  cases ofJson j with
  | error fault => simp
  | ok p =>
      simp only [map_eq_ok_iff, Except.ok.injEq]
      grind

/-- The fields of an object shape have the names of the members, in order. -/
theorem keys_ofJsonMembers {fields : Props Pattern} (h : ofJsonMembers members = .ok fields) :
    Props.keys fields = Props.keys members := by
  induction members generalizing fields with
  | nil =>
      obtain rfl := Except.ok.inj h
      rfl
  | cons m members ih =>
      obtain ⟨p, fields', _, hfields', rfl⟩ := ofJsonMembers_cons_eq_ok_iff.mp h
      exact congrArg (m.1 :: ·) (ih hfields')

end Pattern

/-! ## what can be written -/

/-- Values that JSON writes without an array or an object: null, booleans, finite numbers
and strings. -/
def Value.Scalar : Value → Prop
  | null | bool _ | string _ => True
  | number x => x.isFinite = true
  | undefined | array .. | object .. => False

namespace Pattern

mutual

/-- Patterns that JSON can write: no test is among them, literals are scalars, and object
shapes list their fields by name, each once, under names that stand for fields. -/
def Writable : Pattern → Prop
  | literal v => v.Scalar
  | wildcard | kind _ => True
  | select _ none => True
  | select _ (some p) => p.Writable
  | object fields =>
      Props.Sorted fields ∧ ShapeNames (Props.keys fields) ∧ WritableFields fields
  | tuple ps | all ps | any ps => WritableParts ps
  | each p | not p | optional p => p.Writable
  | when _ => False

def WritableParts : List Pattern → Prop
  | [] => True
  | p :: ps => p.Writable ∧ WritableParts ps

def WritableFields : List (String × Pattern) → Prop
  | [] => True
  | (_, p) :: fields => p.Writable ∧ WritableFields fields

end

/-! ## what is read can be written -/

variable {members : Props Json} {p : Pattern}

/-- Items whose patterns can be written make a list that can be written. -/
theorem writableParts_of_ofJsonItems {items : List Json} {ps : List Pattern}
    (hr : ∀ j ∈ items, ∀ p, ofJson j = .ok p → p.Writable) (h : ofJsonItems items = .ok ps) :
    WritableParts ps := by
  induction items generalizing ps with
  | nil =>
      obtain rfl := Except.ok.inj h
      trivial
  | cons j js ih =>
      obtain ⟨p, ps', hp, hps', rfl⟩ := ofJsonItems_cons_eq_ok_iff.mp h
      obtain ⟨hj, hjs⟩ := List.forall_mem_cons.mp hr
      exact ⟨hj p hp, ih hjs hps'⟩

/-- Members whose patterns can be written make fields that can be written, apart from their
names. -/
theorem writableFields_of_ofJsonMembers {fields : Props Pattern}
    (hr : ∀ m ∈ members, ∀ p, ofJson m.2 = .ok p → p.Writable)
    (h : ofJsonMembers members = .ok fields) : WritableFields fields := by
  induction members generalizing fields with
  | nil =>
      obtain rfl := Except.ok.inj h
      trivial
  | cons m members ih =>
      obtain ⟨p, fields', hp, hfields', rfl⟩ := ofJsonMembers_cons_eq_ok_iff.mp h
      obtain ⟨hm, hms⟩ := List.forall_mem_cons.mp hr
      exact ⟨hm p hp, ih hms hfields'⟩

/-- Lists of alternatives and of parts are read as tuples are. -/
theorem writableParts_of_array {items : List Json} {ps : List Pattern}
    (hr : ∀ p, ofJson (.array items) = .ok p → p.Writable) (h : ofJsonItems items = .ok ps) :
    WritableParts ps :=
  hr (tuple ps) (by rw [ofJson, h]; rfl)

/-- What is read from a matcher can be written, if the patterns in it can. -/
theorem writable_of_matcher (h : Matcher members p)
    (hr : ∀ m ∈ members, ∀ p, ofJson m.2 = .ok p → p.Writable) : p.Writable := by
  cases h with
  | wildcard => trivial
  | select harg => trivial
  | @selectIn inner arg key q hinner harg =>
      exact hr ("$in", inner) List.mem_cons_self q hinner
  | @not arg q harg | @optional arg q harg | @each arg q harg =>
      exact hr (_, arg) List.mem_cons_self q harg
  | all hitems | any hitems =>
      exact writableParts_of_array (hr _ List.mem_cons_self) hitems
  | kind harg =>
      obtain rfl | ⟨k, rfl⟩ := exists_of_kindOfJson harg
      · exact ⟨trivial, trivial, trivial⟩
      · trivial

/-- What is read from an object can be written, if the patterns in its members can. -/
theorem writable_of_object (hs : Props.Sorted members)
    (hr : ∀ m ∈ members, ∀ p, ofJson m.2 = .ok p → p.Writable)
    (h : ofJson (.object members) = .ok p) : p.Writable := by
  cases hm : isMatcher members with
  | true => exact writable_of_matcher (matcher_of_ofJson hm h) hr
  | false =>
      have hnames := isMatcher_eq_false_iff.mp hm
      rw [ofJson_object hnames] at h
      obtain ⟨fields, hfields, rfl⟩ := map_eq_ok_iff.mp h
      have hkeys := keys_ofJsonMembers hfields
      exact ⟨Props.sorted_of_keys_eq hkeys.symm hs, hkeys ▸ hnames,
        writableFields_of_ofJsonMembers hr hfields⟩

mutual

/-- What is read off JSON can be written. -/
theorem writable_of_ofJson : (j : Json) → j.Ordered → ∀ p, ofJson j = .ok p → p.Writable
  | .null, _, p, h | .bool _, _, p, h | .string _, _, p, h => by
      obtain rfl := Except.ok.inj h
      trivial
  | .number n, _, p, h => by
      obtain rfl := Except.ok.inj h
      exact n.isFinite_toBinary64
  | .array items, hj, p, h => by
      rw [ofJson] at h
      obtain ⟨ps, hps, rfl⟩ := map_eq_ok_iff.mp h
      exact writableParts_of_ofJsonItems (writable_of_item items hj) hps
  | .object members, ⟨hs, hm⟩, p, h => writable_of_object hs (writable_of_member members hm) h

theorem writable_of_item : (js : List Json) → Json.OrderedItems js →
    ∀ j ∈ js, ∀ p, ofJson j = .ok p → p.Writable
  | [], _ => nofun
  | j :: js, ⟨hj, hjs⟩ =>
      List.forall_mem_cons.mpr ⟨writable_of_ofJson j hj, writable_of_item js hjs⟩

theorem writable_of_member : (ms : List (String × Json)) → Json.OrderedMembers ms →
    ∀ m ∈ ms, ∀ p, ofJson m.2 = .ok p → p.Writable
  | [], _ => nofun
  | (_, j) :: ms, ⟨hj, hms⟩ =>
      List.forall_mem_cons.mpr ⟨writable_of_ofJson j hj, writable_of_member ms hms⟩

end

/-! ## what can be written is read back -/

/-- A scalar as JSON.  Unlike `Value.toJson` it keeps every double as a double, the negative
zero too. -/
def literalToJson : Value → Json
  | .bool b => .bool b
  | .number x => if h : x.isFinite = true then .number (.double x h) else .null
  | .string s => .string s
  | .null | .undefined | .array .. | .object .. => .null

def keyToJson : SelectionKey → Json
  | .named name => .string name
  | .anonymous => .null

mutual

/-- A way to write a pattern, for those that can be written. -/
def toJson : Pattern → Json
  | literal v => literalToJson v
  | wildcard => .object [("$any", .bool true)]
  | select key none => .object [("$select", keyToJson key)]
  | select key (some p) => .object [("$in", p.toJson), ("$select", keyToJson key)]
  | object fields => .object (toJsonFields fields)
  | tuple ps => .array (toJsonParts ps)
  | each p => .object [("$array", p.toJson)]
  | not p => .object [("$not", p.toJson)]
  | all ps => .object [("$and", .array (toJsonParts ps))]
  | any ps => .object [("$or", .array (toJsonParts ps))]
  | optional p => .object [("$optional", p.toJson)]
  | kind k => .object [("$kind", .string k.name)]
  | when _ => .null

def toJsonParts : List Pattern → List Json
  | [] => []
  | p :: ps => p.toJson :: toJsonParts ps

def toJsonFields : List (String × Pattern) → List (String × Json)
  | [] => []
  | (name, p) :: fields => (name, p.toJson) :: toJsonFields fields

end

/-- Fields are written under their own names, in order. -/
theorem keys_toJsonFields (fields : Props Pattern) :
    Props.keys (toJsonFields fields) = Props.keys fields := by
  induction fields with
  | nil => rfl
  | cons field fields ih => exact congrArg (field.1 :: ·) ih

/-- A scalar is written without an object, so there are no keys to order. -/
theorem ordered_literalToJson (v : Value) : (literalToJson v).Ordered := by
  unfold literalToJson
  split
  case h_2 => split <;> trivial
  all_goals trivial

theorem ordered_keyToJson (key : SelectionKey) : (keyToJson key).Ordered := by
  cases key <;> trivial

/-- An object of one member is in order. -/
theorem ordered_singleton {name : String} {j : Json} (h : j.Ordered) :
    (Json.object [(name, j)]).Ordered :=
  ⟨List.pairwise_singleton _ _, h, trivial⟩

mutual

/-- A pattern that can be written is written with the keys of every object in order. -/
theorem ordered_toJson : (p : Pattern) → p.Writable → p.toJson.Ordered
  | literal v, _ => ordered_literalToJson v
  | wildcard, _ | kind _, _ => ordered_singleton trivial
  | select key none, _ => ordered_singleton (ordered_keyToJson key)
  | select key (some p), h =>
      have hlt : "$in" < "$select" := by decide
      ⟨List.pairwise_pair.mpr hlt, ordered_toJson p h, ordered_keyToJson key, trivial⟩
  | object fields, ⟨hs, _, hf⟩ =>
      ⟨Props.sorted_of_keys_eq (keys_toJsonFields fields).symm hs, ordered_toJsonFields fields hf⟩
  | tuple ps, h => ordered_toJsonParts ps h
  | all ps, h | any ps, h => ordered_singleton (ordered_toJsonParts ps h)
  | each p, h | not p, h | optional p, h => ordered_singleton (ordered_toJson p h)
  | when _, h => h.elim

theorem ordered_toJsonParts : (ps : List Pattern) → WritableParts ps →
    Json.OrderedItems (toJsonParts ps)
  | [], _ => trivial
  | p :: ps, ⟨hp, hps⟩ => ⟨ordered_toJson p hp, ordered_toJsonParts ps hps⟩

theorem ordered_toJsonFields : (fields : List (String × Pattern)) → WritableFields fields →
    Json.OrderedMembers (toJsonFields fields)
  | [], _ => trivial
  | (_, p) :: fields, ⟨hp, hf⟩ => ⟨ordered_toJson p hp, ordered_toJsonFields fields hf⟩

end

/-- A scalar is read back as the literal it was written for. -/
theorem ofJson_literalToJson {v : Value} (h : v.Scalar) :
    ofJson (literalToJson v) = .ok (literal v) := by
  cases v with
  | null | bool b | string s => rfl
  | number x =>
      have hx : x.isFinite = true := h
      rw [literalToJson, dif_pos hx]
      rfl
  | undefined | array i items | object i props => exact h.elim

/-- A key is read back from the way it is written. -/
theorem keyOfJson_keyToJson (key : SelectionKey) : keyOfJson (keyToJson key) = .ok key := by
  cases key <;> rfl

mutual

/-- What can be written is read back. -/
theorem ofJson_toJson : (p : Pattern) → p.Writable → ofJson p.toJson = .ok p
  | literal _, h => ofJson_literalToJson h
  | wildcard, _ => ofJson_of_matcher .wildcard
  | select key none, _ => ofJson_of_matcher (.select (keyOfJson_keyToJson key))
  | select key (some p), h =>
      ofJson_of_matcher (.selectIn (ofJson_toJson p h) (keyOfJson_keyToJson key))
  | object fields, ⟨_, hnames, hf⟩ => by
      have hkeys : ShapeNames (Props.keys (toJsonFields fields)) :=
        keys_toJsonFields fields ▸ hnames
      rw [toJson, ofJson_object hkeys, ofJsonMembers_toJsonFields fields hf]
      rfl
  | tuple ps, h => by
      rw [toJson, ofJson, ofJsonItems_toJsonParts ps h]
      rfl
  | all ps, h => ofJson_of_matcher (.all (ofJsonItems_toJsonParts ps h))
  | any ps, h => ofJson_of_matcher (.any (ofJsonItems_toJsonParts ps h))
  | each p, h => ofJson_of_matcher (.each (ofJson_toJson p h))
  | not p, h => ofJson_of_matcher (.not (ofJson_toJson p h))
  | optional p, h => ofJson_of_matcher (.optional (ofJson_toJson p h))
  | kind k, _ => ofJson_of_matcher (.kind (kindOfJson_name k))
  | when _, h => h.elim

theorem ofJsonItems_toJsonParts : (ps : List Pattern) → WritableParts ps →
    ofJsonItems (toJsonParts ps) = .ok ps
  | [], _ => rfl
  | p :: ps, ⟨hp, hps⟩ =>
      ofJsonItems_cons_eq_ok_iff.mpr
        ⟨p, ps, ofJson_toJson p hp, ofJsonItems_toJsonParts ps hps, rfl⟩

theorem ofJsonMembers_toJsonFields : (fields : List (String × Pattern)) → WritableFields fields →
    ofJsonMembers (toJsonFields fields) = .ok fields
  | [], _ => rfl
  | (_, p) :: fields, ⟨hp, hf⟩ =>
      ofJsonMembers_cons_eq_ok_iff.mpr
        ⟨p, fields, ofJson_toJson p hp, ofJsonMembers_toJsonFields fields hf, rfl⟩

end

/-- The patterns that JSON writes are those that can be written at every node. -/
theorem exists_ofJson_iff_writable (p : Pattern) :
    (∃ j : Json, j.Ordered ∧ ofJson j = .ok p) ↔ p.Writable := by
  constructor
  · intro ⟨j, hj, h⟩
    exact writable_of_ofJson j hj p h
  · intro h
    exact ⟨p.toJson, ordered_toJson p h, ofJson_toJson p h⟩

end Pattern

end Casebook
