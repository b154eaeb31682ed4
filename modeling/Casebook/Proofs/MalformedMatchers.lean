import Casebook.Proofs.WritablePatterns
import Mathlib.Logic.Relation

/-!
# Casebook.Proofs.MalformedMatchers

The JSON values that write no pattern.  What can be wrong is always a matcher: an object whose keys
all start with `$`, but that has none of the forms below.  A value is refused iff such an object
stands in it where a pattern is expected.

* `Json.MatcherForm` — the members of a matcher, and the patterns written in them;
* `Json.Part`, `Json.PatternPosition` — where patterns are expected;
* `Json.Malformed` — an object that is taken for a matcher and has no form of one;
* `Pattern.exists_ofJson_iff` — a value writes a pattern iff it is not malformed and its parts write
  patterns;
* `exists_error_iff_malformed` — the values that are refused.
-/

namespace Casebook

namespace Json

/-! ## what may be written -/

/-- The key of a selection: a name, or null or true for none. -/
def SelectionName (arg : Json) : Prop := arg = .null ∨ arg = .bool true ∨ ∃ name, arg = .string name

/-- The members of a matcher, and the patterns that are written in them.  Members are listed by key,
so `$in` stands before `$select`. -/
inductive MatcherForm : Props Json → List Json → Prop
  | anything : MatcherForm [("$any", .bool true)] []
  | select {arg : Json} : SelectionName arg → MatcherForm [("$select", arg)] []
  | selectIn {inner arg : Json} :
      SelectionName arg → MatcherForm [("$in", inner), ("$select", arg)] [inner]
  | ofOne {name : String} {arg : Json} :
      name ∈ ["$not", "$optional", "$array"] → MatcherForm [(name, arg)] [arg]
  | ofMany {name : String} {items : List Json} :
      name ∈ ["$and", "$or"] → MatcherForm [(name, .array items)] items
  | kind {name : String} :
      name = "nullish" ∨ (∃ k : Kind, name = k.name) → MatcherForm [("$kind", .string name)] []

/-- A pattern is expected in the second value because one is expected in the first, right around
it. -/
inductive Part : Json → Json → Prop
  | item {items : List Json} {j : Json} : j ∈ items → Part (.array items) j
  | field {members : Props Json} {m : String × Json} :
      Pattern.ShapeNames (Props.keys members) → m ∈ members → Part (.object members) m.2
  | argument {members : Props Json} {inner : List Json} {j : Json} :
      MatcherForm members inner → j ∈ inner → Part (.object members) j

/-- A pattern is expected in the second value because one is expected in the first. -/
def PatternPosition : Json → Json → Prop := Relation.ReflTransGen Part

/-- An object that its keys make a matcher, and that has no form of one. -/
def Malformed : Json → Prop
  | .object members => members ≠ [] ∧ (∀ m ∈ members, m.1.startsWith "$" = true) ∧
      ∀ inner, ¬ MatcherForm members inner
  | _ => False

theorem sizeOf_lt_of_item {items : List Json} {j : Json} (h : j ∈ items) :
    sizeOf j < sizeOf (array items) := by
  have := List.sizeOf_lt_of_mem h
  simp only [array.sizeOf_spec]
  omega

theorem sizeOf_lt_of_member {members : Props Json} {name : String} {j : Json}
    (h : (name, j) ∈ members) : sizeOf j < sizeOf (object members) := by
  have := List.sizeOf_lt_of_mem h
  simp only [Prod.mk.sizeOf_spec, object.sizeOf_spec] at this ⊢
  omega

/-- A pattern that is expected inside a value is smaller than it, so a recursion may descend. -/
theorem sizeOf_lt_of_part {j k : Json} (h : Part j k) : sizeOf k < sizeOf j := by
  cases h with
  | item hk => exact sizeOf_lt_of_item hk
  | field _ hm => exact sizeOf_lt_of_member hm
  | argument hform hk =>
      cases hform with
      | anything | select | kind => cases hk
      | selectIn | ofOne =>
          obtain rfl := List.mem_singleton.mp hk
          exact sizeOf_lt_of_member List.mem_cons_self
      | ofMany =>
          exact Nat.lt_trans (sizeOf_lt_of_item hk) (sizeOf_lt_of_member List.mem_cons_self)

end Json

namespace Pattern

open Json

/-- Exactly the names of selections are read as keys. -/
theorem exists_keyOfJson_iff {arg : Json} :
    (∃ key, keyOfJson arg = .ok key) ↔ SelectionName arg := by
  unfold keyOfJson SelectionName
  split <;> simp_all

/-- Exactly `nullish` and the names of kinds are read as kinds. -/
theorem exists_kindOfJson_iff {arg : Json} :
    (∃ p, kindOfJson arg = .ok p) ↔
      ∃ name, arg = .string name ∧ (name = "nullish" ∨ ∃ k : Kind, name = k.name) := by
  constructor
  · rintro ⟨p, h⟩
    unfold kindOfJson at h
    split at h
    case h_1 => exact ⟨_, rfl, .inl rfl⟩
    case h_2 name _ =>
        split at h
        case h_1 k hk => exact ⟨name, rfl, .inr ⟨k, (Kind.name_of_ofName? hk).symm⟩⟩
        case h_2 => cases h
    case h_3 => cases h
  · rintro ⟨name, rfl, rfl | ⟨k, rfl⟩⟩
    · exact ⟨nullish, rfl⟩
    · exact ⟨kind k, kindOfJson_name k⟩

/-! ## the parts of what is read -/

variable {members : Props Json} {items : List Json} {j : Json} {p : Pattern}

/-- The items of an array are read if each of them is. -/
theorem exists_ofJsonItems_iff :
    (∃ ps, ofJsonItems items = .ok ps) ↔ ∀ j ∈ items, ∃ p, ofJson j = .ok p := by
  induction items with
  | nil => exact iff_of_true ⟨[], rfl⟩ (List.forall_mem_nil _)
  | cons j js ih =>
      rw [List.forall_mem_cons, ← ih]
      simp only [ofJsonItems_cons_eq_ok_iff]
      constructor
      · rintro ⟨-, p, ps, hp, hps, -⟩
        exact ⟨⟨p, hp⟩, ps, hps⟩
      · rintro ⟨⟨p, hp⟩, ps, hps⟩
        exact ⟨p :: ps, p, ps, hp, hps, rfl⟩

/-- The members of an object are read if the pattern in each of them is. -/
theorem exists_ofJsonMembers_iff :
    (∃ fields, ofJsonMembers members = .ok fields) ↔
      ∀ m ∈ members, ∃ p, ofJson m.2 = .ok p := by
  induction members with
  | nil => exact iff_of_true ⟨[], rfl⟩ (List.forall_mem_nil _)
  | cons m ms ih =>
      obtain ⟨name, j⟩ := m
      rw [List.forall_mem_cons, ← ih]
      simp only [ofJsonMembers_cons_eq_ok_iff]
      constructor
      · rintro ⟨-, p, fields, hp, hfields, -⟩
        exact ⟨⟨p, hp⟩, fields, hfields⟩
      · rintro ⟨⟨p, hp⟩, fields, hfields⟩
        exact ⟨(name, p) :: fields, p, fields, hp, hfields, rfl⟩

/-- What is read as a matcher has a form of one, and its parts are read. -/
theorem exists_form_of_matcher (h : Matcher members p) :
    ∃ inner, MatcherForm members inner ∧ ∀ j ∈ inner, ∃ q, ofJson j = .ok q := by
  cases h with
  | wildcard => exact ⟨[], .anything, List.forall_mem_nil _⟩
  | select harg =>
      exact ⟨[], .select (exists_keyOfJson_iff.mp ⟨_, harg⟩), List.forall_mem_nil _⟩
  | selectIn hinner harg =>
      exact ⟨_, .selectIn (exists_keyOfJson_iff.mp ⟨_, harg⟩),
        List.forall_mem_singleton.mpr ⟨_, hinner⟩⟩
  | not harg | optional harg | each harg =>
      exact ⟨_, .ofOne (by simp), List.forall_mem_singleton.mpr ⟨_, harg⟩⟩
  | all hitems | any hitems =>
      exact ⟨_, .ofMany (by simp), exists_ofJsonItems_iff.mp ⟨_, hitems⟩⟩
  | kind harg =>
      obtain ⟨name, rfl, hname⟩ := exists_kindOfJson_iff.mp ⟨_, harg⟩
      exact ⟨[], .kind hname, List.forall_mem_nil _⟩

/-- What has a form of a matcher is read as one if its parts are read. -/
theorem exists_matcher_of_form {inner : List Json} (h : MatcherForm members inner)
    (hinner : ∀ j ∈ inner, ∃ q, ofJson j = .ok q) : ∃ p, Matcher members p := by
  cases h with
  | anything => exact ⟨_, .wildcard⟩
  | select harg =>
      obtain ⟨key, hkey⟩ := exists_keyOfJson_iff.mpr harg
      exact ⟨_, .select hkey⟩
  | selectIn harg =>
      obtain ⟨key, hkey⟩ := exists_keyOfJson_iff.mpr harg
      obtain ⟨q, hq⟩ := List.forall_mem_singleton.mp hinner
      exact ⟨_, .selectIn hq hkey⟩
  | ofOne hname =>
      obtain ⟨q, hq⟩ := List.forall_mem_singleton.mp hinner
      simp only [List.mem_cons, List.not_mem_nil, or_false] at hname
      rcases hname with rfl | rfl | rfl
      · exact ⟨_, .not hq⟩
      · exact ⟨_, .optional hq⟩
      · exact ⟨_, .each hq⟩
  | ofMany hname =>
      obtain ⟨ps, hps⟩ := exists_ofJsonItems_iff.mpr hinner
      simp only [List.mem_cons, List.not_mem_nil, or_false] at hname
      rcases hname with rfl | rfl
      · exact ⟨_, .all hps⟩
      · exact ⟨_, .any hps⟩
  | kind hname =>
      obtain ⟨p, hp⟩ := exists_kindOfJson_iff.mpr ⟨_, rfl, hname⟩
      exact ⟨p, .kind hp⟩

/-- An object is taken for a matcher if it has members and the keys of all of them start with
`$`. -/
theorem isMatcher_iff :
    isMatcher members = true ↔
      members ≠ [] ∧ ∀ m ∈ members, m.1.startsWith "$" = true := by
  rw [isMatcher, Bool.and_eq_true, Bool.not_eq_true', List.isEmpty_eq_false_iff, List.all_eq_true]

/-- Every form of matcher is taken for one. -/
theorem isMatcher_of_form {inner : List Json} (h : MatcherForm members inner) :
    isMatcher members = true := by
  cases h with
  | ofOne hname =>
      simp only [List.mem_cons, List.not_mem_nil, or_false] at hname
      rcases hname with rfl | rfl | rfl <;> simp [isMatcher]
  | ofMany hname =>
      simp only [List.mem_cons, List.not_mem_nil, or_false] at hname
      rcases hname with rfl | rfl <;> simp [isMatcher]
  | _ => simp [isMatcher]

/-- The members tell which patterns are written in them. -/
theorem inner_eq_of_form {members' : Props Json} {inner inner' : List Json}
    (h : MatcherForm members inner) (h' : MatcherForm members' inner')
    (hmembers : members = members') : inner = inner' := by
  cases h <;> cases h' <;> grind

/-! ## one value and its parts -/

theorem part_array_iff : Part (.array items) j ↔ j ∈ items := by
  constructor
  · intro h
    cases h with
    | item hj => exact hj
  · exact .item

/-- The parts of an object shape are what stands under its keys. -/
theorem forall_part_of_shape {P : Json → Prop} (hm : isMatcher members = false) :
    (∀ j, Part (.object members) j → P j) ↔ ∀ m ∈ members, P m.2 := by
  constructor
  · intro h m hmem
    exact h m.2 (.field (isMatcher_eq_false_iff.mp hm) hmem)
  · intro h j hj
    cases hj with
    | field _ hmem => exact h _ hmem
    | argument hform _ => exact absurd (isMatcher_of_form hform) (Bool.eq_false_iff.mp hm)

/-- The parts of a matcher are the patterns written in it. -/
theorem forall_part_of_form {P : Json → Prop} {inner : List Json}
    (h : MatcherForm members inner) :
    (∀ j, Part (.object members) j → P j) ↔ ∀ j ∈ inner, P j := by
  constructor
  · intro hP j hj
    exact hP j (.argument h hj)
  · intro hP j hj
    cases hj with
    | field hshape _ =>
        have hm := isMatcher_eq_false_iff.mpr hshape
        rw [isMatcher_of_form h] at hm
        cases hm
    | argument hform hj => exact hP j (inner_eq_of_form hform h rfl ▸ hj)

/-- An object is read exactly if it is no malformed matcher and the patterns in it are read. -/
theorem exists_ofJson_object_iff :
    (∃ p, ofJson (.object members) = .ok p) ↔
      ¬ (Json.object members).Malformed ∧
        ∀ j, Part (.object members) j → ∃ q, ofJson j = .ok q := by
  cases hm : isMatcher members with
  | false =>
      have hwell : ¬ (Json.object members).Malformed := by
        rintro ⟨hne, hall, -⟩
        rw [isMatcher_iff.mpr ⟨hne, hall⟩] at hm
        cases hm
      rw [ofJson_object (isMatcher_eq_false_iff.mp hm), exists_map_eq_ok_iff, and_iff_right hwell,
        forall_part_of_shape hm, exists_ofJsonMembers_iff]
  | true =>
      constructor
      · rintro ⟨p, hp⟩
        obtain ⟨inner, hform, hinner⟩ := exists_form_of_matcher (matcher_of_ofJson hm hp)
        exact ⟨fun hmalformed => hmalformed.2.2 inner hform, (forall_part_of_form hform).mpr hinner⟩
      · rintro ⟨hwell, hparts⟩
        obtain ⟨hne, hall⟩ := isMatcher_iff.mp hm
        obtain ⟨inner, hform⟩ : ∃ inner, MatcherForm members inner := by
          apply Classical.byContradiction
          intro hnone
          exact hwell ⟨hne, hall, not_exists.mp hnone⟩
        obtain ⟨p, hp⟩ := exists_matcher_of_form hform ((forall_part_of_form hform).mp hparts)
        exact ⟨p, ofJson_of_matcher hp⟩

/-- A value writes a pattern iff it is not malformed and its parts write patterns. -/
theorem exists_ofJson_iff (j : Json) :
    (∃ p, ofJson j = .ok p) ↔ ¬ j.Malformed ∧ ∀ k, Part j k → ∃ q, ofJson k = .ok q := by
  cases j with
  | object members => exact exists_ofJson_object_iff
  | array items =>
      have hwell : ¬ (Json.array items).Malformed := id
      simp only [part_array_iff]
      rw [ofJson, exists_map_eq_ok_iff, and_iff_right hwell, exists_ofJsonItems_iff]
  | null | bool _ | number _ | string _ => exact iff_of_true ⟨_, rfl⟩ ⟨id, nofun⟩

/-! ## all positions -/

/-- What writes a pattern writes one in every position, so nothing in it is malformed. -/
theorem not_malformed_of_ofJson {k : Json} (hp : ofJson j = .ok p) (h : PatternPosition j k) :
    ¬ k.Malformed := by
  have hk : ∃ q, ofJson k = .ok q := by
    induction h with
    | refl => exact ⟨p, hp⟩
    | tail _ hpart ih => exact ((exists_ofJson_iff _).mp ih).2 _ hpart
  exact ((exists_ofJson_iff k).mp hk).1

/-- Where nothing is malformed, a pattern is written. -/
theorem exists_ofJson_of_positions (j : Json)
    (h : ∀ k, PatternPosition j k → ¬ k.Malformed) : ∃ p, ofJson j = .ok p := by
  refine (exists_ofJson_iff j).mpr ⟨h j .refl, fun k hpart => ?_⟩
  exact exists_ofJson_of_positions k fun l hl => h l (.head hpart hl)
termination_by j
decreasing_by exact sizeOf_lt_of_part hpart

/-- **What is refused is a malformed matcher.**  A value writes no pattern iff an object that its
keys make a matcher, but that has no form of one, stands in it where a pattern is expected. -/
theorem exists_error_iff_malformed (j : Json) :
    (∃ fault, ofJson j = .error fault) ↔ ∃ k, PatternPosition j k ∧ k.Malformed := by
  constructor
  · rintro ⟨fault, hfault⟩
    apply Classical.byContradiction
    intro hnone
    obtain ⟨p, hp⟩ := exists_ofJson_of_positions j fun k hk hm => hnone ⟨k, hk, hm⟩
    rw [hfault] at hp
    cases hp
  · rintro ⟨k, hk, hm⟩
    cases hj : ofJson j with
    | error fault => exact ⟨fault, rfl⟩
    | ok p => exact absurd hm (not_malformed_of_ofJson hj hk)

end Pattern

end Casebook
