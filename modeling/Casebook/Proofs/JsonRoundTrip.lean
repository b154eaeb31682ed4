import Casebook.Json.Convert
import Casebook.Proofs.StructuralEquality

/-!
# Casebook.Proofs.JsonRoundTrip

From values to JSON and back, and from JSON to values and back.  The first way loses what JSON does
not know: `undefined`, NaN and the infinities come back as null.  The second loses in which of its
forms a number was written.

* `Json.Number.canonical` — the form in which a number is written;
* `Json.mapNumbers`, `Json.numbers` — the numbers in a JSON value;
* `Value.Lost`, `Value.leaves`, `Value.nulled` — what a value loses;
* `Value.toJson_ofJsonFrom`, `canonical_of_mem_toJson` — what is written of a JSON value has all
  numbers in canonical form, and what is written of any value has such numbers only;
* `Value.equals_ofJsonFrom_nulled`, `equals_ofJsonFrom_iff` — what is read back of a value;
* `Value.json_round_trip` — both ways together.
-/

namespace Casebook

/-! ## numbers -/

namespace Json.Number

/-- The form in which a number is written: an integer if its double is a safe one, and that double
otherwise. -/
def canonical (n : Number) : Number :=
  match h : n.toBinary64.safeInteger? with
  | some k => integer k (Value.inRange_of_safeInteger? h)
  | none => double n.toBinary64 n.isFinite_toBinary64

variable {n : Number} {k : Int} {x : Binary64}

theorem canonical_of_some (h : n.toBinary64.safeInteger? = some k) :
    n.canonical = integer k (Value.inRange_of_safeInteger? h) := by
  unfold canonical
  split
  case h_1 m hm =>
      obtain rfl := Option.some.inj (hm.symm.trans h)
      rfl
  case h_2 hm => cases hm.symm.trans h

theorem canonical_of_none (h : n.toBinary64.safeInteger? = none) :
    n.canonical = double n.toBinary64 n.isFinite_toBinary64 := by
  unfold canonical
  split
  case h_1 hm => cases hm.symm.trans h
  case h_2 => rfl

/-- The double of a number is this integer, and the integer is a safe one. -/
def IsSafeInteger (n : Number) (k : Int) : Prop :=
  n.toBinary64.toInt? = some (k * Binary64.unitsPerOne) ∧ k.natAbs ≤ Binary64.maxSafeInteger

/-- A number is written as an integer iff its double is that integer and the integer is safe. -/
theorem canonical_eq_integer_iff {inRange} :
    n.canonical = integer k inRange ↔ n.IsSafeInteger k := by
  rw [IsSafeInteger, ← Binary64.safeInteger?_eq_some_iff]
  cases h : n.toBinary64.safeInteger? with
  | none => simp [canonical_of_none h]
  | some m => simp [canonical_of_some h]

/-- A number is written as a double iff it is that double and no safe integer. -/
theorem canonical_eq_double_iff {finite} :
    n.canonical = double x finite ↔ n.toBinary64 = x ∧ ∀ k, ¬ n.IsSafeInteger k := by
  simp only [IsSafeInteger, ← Binary64.safeInteger?_eq_some_iff]
  cases h : n.toBinary64.safeInteger? with
  | none => simp [canonical_of_none h]
  | some m => simp [canonical_of_some h]

/-- Both forms have one value. -/
theorem equal_toBinary64_canonical (n : Number) :
    n.canonical.toBinary64.equal n.toBinary64 = true := by
  cases h : n.toBinary64.safeInteger? with
  | some k =>
      obtain ⟨hn, hk⟩ := Binary64.safeInteger?_eq_some_iff.mp h
      rw [canonical_of_some h]
      exact Binary64.equal_iff.mpr ⟨_, Binary64.toInt?_ofInt hk, hn⟩
  | none =>
      rw [canonical_of_none h]
      exact Binary64.equal_self_of_isFinite n.isFinite_toBinary64

/-- Writing a number again changes nothing. -/
@[simp] theorem canonical_canonical (n : Number) : n.canonical.canonical = n.canonical := by
  cases h : n.toBinary64.safeInteger? with
  | some k =>
      have hk : (Binary64.ofInt k).safeInteger? = some k :=
        Binary64.safeInteger?_ofInt (Binary64.natAbs_le_of_safeInteger? h)
      rw [canonical_of_some h]
      exact canonical_of_some (n := integer k _) hk
  | none =>
      rw [canonical_of_none h]
      exact canonical_of_none h

end Json.Number

namespace Json

/-! ## the numbers in a JSON value -/

mutual

/-- The numbers in a value, at every depth. -/
def numbers : Json → List Number
  | number n => [n]
  | array items => numbersItems items
  | object members => numbersMembers members
  | _ => []

def numbersItems : List Json → List Number
  | [] => []
  | j :: js => j.numbers ++ numbersItems js

def numbersMembers : List (String × Json) → List Number
  | [] => []
  | (_, j) :: ms => j.numbers ++ numbersMembers ms

end

mutual

/-- A value with another number in place of each. -/
def mapNumbers (f : Number → Number) : Json → Json
  | null => null
  | bool b => bool b
  | number n => number (f n)
  | string s => string s
  | array items => array (mapNumbersItems f items)
  | object members => object (mapNumbersMembers f members)

def mapNumbersItems (f : Number → Number) : List Json → List Json
  | [] => []
  | j :: js => j.mapNumbers f :: mapNumbersItems f js

def mapNumbersMembers (f : Number → Number) : List (String × Json) → List (String × Json)
  | [] => []
  | (k, j) :: ms => (k, j.mapNumbers f) :: mapNumbersMembers f ms

end

section

variable (f : Number → Number)

mutual

/-- Only numbers that stay as they are leave a value as it is. -/
theorem mapNumbers_eq_self_iff (j : Json) : j.mapNumbers f = j ↔ ∀ n ∈ j.numbers, f n = n := by
  cases j with
  | number n => rw [mapNumbers, number.injEq, numbers, List.forall_mem_singleton]
  | array items => rw [mapNumbers, array.injEq, numbers, mapNumbersItems_eq_self_iff items]
  | object members =>
      rw [mapNumbers, object.injEq, numbers, mapNumbersMembers_eq_self_iff members]
  | null | bool _ | string _ => exact iff_of_true rfl (List.forall_mem_nil _)

theorem mapNumbersItems_eq_self_iff (js : List Json) :
    mapNumbersItems f js = js ↔ ∀ n ∈ numbersItems js, f n = n := by
  cases js with
  | nil => exact iff_of_true rfl (List.forall_mem_nil _)
  | cons j js =>
      rw [mapNumbersItems, List.cons.injEq, numbersItems, List.forall_mem_append,
        mapNumbers_eq_self_iff j, mapNumbersItems_eq_self_iff js]

theorem mapNumbersMembers_eq_self_iff (ms : List (String × Json)) :
    mapNumbersMembers f ms = ms ↔ ∀ n ∈ numbersMembers ms, f n = n := by
  cases ms with
  | nil => exact iff_of_true rfl (List.forall_mem_nil _)
  | cons m ms =>
      obtain ⟨k, j⟩ := m
      rw [mapNumbersMembers, List.cons.injEq, Prod.mk.injEq, eq_self_iff_true, true_and,
        numbersMembers, List.forall_mem_append, mapNumbers_eq_self_iff j,
        mapNumbersMembers_eq_self_iff ms]

end

end

end Json

namespace Value

open Json (Number)

/-! ## JSON to values and back -/

/-- Writing the double of a number writes the number in canonical form. -/
theorem numberToJson_toBinary64 (n : Number) :
    numberToJson n.toBinary64 = .number n.canonical := by
  cases h : n.toBinary64.safeInteger? with
  | some k => rw [numberToJson_of_safeInteger? h, Number.canonical_of_some h]
  | none => rw [numberToJson_of_isFinite h n.isFinite_toBinary64, Number.canonical_of_none h]

/-- A finite double is written in canonical form. -/
theorem numberToJson_eq_canonical {x : Binary64} (hx : x.isFinite = true) :
    numberToJson x = .number (Number.double x hx).canonical :=
  numberToJson_toBinary64 (.double x hx)

mutual

/-- What is written of a JSON value is that value, with its numbers in canonical form. -/
theorem toJson_ofJsonFrom (j : Json) (next : Nat) :
    (ofJsonFrom j next).1.toJson = j.mapNumbers Number.canonical := by
  cases j with
  | number n => exact numberToJson_toBinary64 n
  | array items => rw [ofJsonFrom_array, toJson, toJsonItems_ofJsonItems items, Json.mapNumbers]
  | object members =>
      rw [ofJsonFrom_object, toJson, toJsonProps_ofJsonMembers members, Json.mapNumbers]
  | null | bool _ | string _ => rfl

theorem toJsonItems_ofJsonItems (js : List Json) (next : Nat) :
    toJsonItems (ofJsonItems js next).1 = Json.mapNumbersItems Number.canonical js := by
  cases js with
  | nil => rfl
  | cons j js =>
      rw [ofJsonItems_cons, toJsonItems, toJson_ofJsonFrom j, toJsonItems_ofJsonItems js,
        Json.mapNumbersItems]

theorem toJsonProps_ofJsonMembers (ms : List (String × Json)) (next : Nat) :
    toJsonProps (ofJsonMembers ms next).1 = Json.mapNumbersMembers Number.canonical ms := by
  cases ms with
  | nil => rfl
  | cons m ms =>
      obtain ⟨k, j⟩ := m
      rw [ofJsonMembers_cons, toJsonProps, toJson_ofJsonFrom j, toJsonProps_ofJsonMembers ms,
        Json.mapNumbersMembers]

end

mutual

/-- No other number is ever written. -/
theorem canonical_of_mem_toJson (v : Value) : ∀ n ∈ v.toJson.numbers, n.canonical = n := by
  cases v with
  | number x =>
      rw [toJson]
      by_cases hx : x.isFinite = true
      · rw [numberToJson_eq_canonical hx, Json.numbers, List.forall_mem_singleton]
        exact Number.canonical_canonical _
      · rw [numberToJson_of_not_isFinite hx]
        exact List.forall_mem_nil _
  | array i items => exact canonical_of_mem_toJsonItems items
  | object i props => exact canonical_of_mem_toJsonProps props
  | undefined | null | bool _ | string _ => exact List.forall_mem_nil _

theorem canonical_of_mem_toJsonItems (vs : List Value) :
    ∀ n ∈ Json.numbersItems (toJsonItems vs), n.canonical = n := by
  cases vs with
  | nil => exact List.forall_mem_nil _
  | cons v vs =>
      rw [toJsonItems, Json.numbersItems, List.forall_mem_append]
      exact ⟨canonical_of_mem_toJson v, canonical_of_mem_toJsonItems vs⟩

theorem canonical_of_mem_toJsonProps (ps : List (String × Value)) :
    ∀ n ∈ Json.numbersMembers (toJsonProps ps), n.canonical = n := by
  cases ps with
  | nil => exact List.forall_mem_nil _
  | cons p ps =>
      obtain ⟨k, v⟩ := p
      rw [toJsonProps, Json.numbersMembers, List.forall_mem_append]
      exact ⟨canonical_of_mem_toJson v, canonical_of_mem_toJsonProps ps⟩

end

/-- What is written of what was read of it is the same again. -/
theorem toJson_ofJsonFrom_toJson (v : Value) (next : Nat) :
    (ofJsonFrom v.toJson next).1.toJson = v.toJson := by
  rw [toJson_ofJsonFrom]
  exact (Json.mapNumbers_eq_self_iff _ _).mpr (canonical_of_mem_toJson v)

/-! ## values to JSON and back -/

/-- What JSON does not know, and for which null is written. -/
inductive Lost : Value → Prop
  | undefined : Lost undefined
  | nan : Lost (number .nan)
  | infinite (negative : Bool) : Lost (number (.infinite negative))

/-- The numbers that are lost are the infinities and NaN. -/
theorem lost_number_iff {x : Binary64} : Lost (number x) ↔ ¬ x.isFinite = true := by
  cases x with
  | nan => exact iff_of_true .nan nofun
  | infinite negative => exact iff_of_true (.infinite negative) nofun
  | finite negative m e h => exact iff_of_false nofun (not_not_intro rfl)

mutual

/-- What stands in a value that is neither an array nor an object, at every depth. -/
def leaves : Value → List Value
  | array _ items => leavesItems items
  | object _ props => leavesProps props
  | v => [v]

def leavesItems : List Value → List Value
  | [] => []
  | v :: vs => v.leaves ++ leavesItems vs

def leavesProps : List (String × Value) → List Value
  | [] => []
  | (_, v) :: ps => v.leaves ++ leavesProps ps

end

mutual

/-- A value with null in place of all that is lost. -/
def nulled : Value → Value
  | undefined | null => null
  | bool b => bool b
  | number x => if x.isFinite then number x else null
  | string s => string s
  | array i items => array i (nulledItems items)
  | object i props => object i (nulledProps props)

def nulledItems : List Value → List Value
  | [] => []
  | v :: vs => v.nulled :: nulledItems vs

def nulledProps : List (String × Value) → List (String × Value)
  | [] => []
  | (k, v) :: ps => (k, v.nulled) :: nulledProps ps

end

/-- A finite number is read back as an equal one, although the sign of a zero is lost. -/
theorem equals_ofJsonFrom_number {x : Binary64} (hx : x.isFinite = true) (next : Nat) :
    (ofJsonFrom (numberToJson x) next).1.equals (number x) = true := by
  rw [numberToJson_eq_canonical hx]
  exact Number.equal_toBinary64_canonical (.double x hx)

mutual

/-- What is lost comes back as null, and all else as it was. -/
theorem equals_ofJsonFrom_nulled (v : Value) (next : Nat) :
    (ofJsonFrom v.toJson next).1.equals v.nulled = true := by
  cases v with
  | number x =>
      rw [toJson, nulled]
      by_cases hx : x.isFinite = true
      · rw [if_pos hx]
        exact equals_ofJsonFrom_number hx next
      · rw [if_neg hx, numberToJson_of_not_isFinite hx]
        rfl
  | array i items =>
      exact equals_array_iff.mpr (.inr (equalsItems_ofJsonItems_nulled items next))
  | object i props =>
      exact equals_object_iff.mpr (.inr (equalsProps_ofJsonMembers_nulled props next))
  | undefined | null | bool _ | string _ => exact (equals_self_iff _).mpr nofun

theorem equalsItems_ofJsonItems_nulled (vs : List Value) (next : Nat) :
    equalsItems (ofJsonItems (toJsonItems vs) next).1 (nulledItems vs) = true := by
  cases vs with
  | nil => rfl
  | cons v vs =>
      rw [toJsonItems, ofJsonItems_cons, nulledItems, equalsItems, Bool.and_eq_true]
      exact ⟨equals_ofJsonFrom_nulled v next, equalsItems_ofJsonItems_nulled vs _⟩

theorem equalsProps_ofJsonMembers_nulled (ps : List (String × Value)) (next : Nat) :
    equalsProps (ofJsonMembers (toJsonProps ps) next).1 (nulledProps ps) = true := by
  cases ps with
  | nil => rfl
  | cons p ps =>
      obtain ⟨k, v⟩ := p
      rw [toJsonProps, ofJsonMembers_cons, nulledProps, equalsProps, Bool.and_eq_true,
        Bool.and_eq_true]
      exact ⟨⟨beq_self_eq_true k, equals_ofJsonFrom_nulled v next⟩,
        equalsProps_ofJsonMembers_nulled ps _⟩

end

/- Identities are drawn from a supply that the value leaves alone, so none of its own comes back. -/

mutual

/-- Reading draws identities from the supply and puts none back. -/
theorem le_ofJsonFrom (j : Json) (next : Nat) : next ≤ (ofJsonFrom j next).2 := by
  cases j with
  | array items => exact Nat.le_succ_of_le (le_ofJsonItems items next)
  | object members => exact Nat.le_succ_of_le (le_ofJsonMembers members next)
  | null | bool _ | number _ | string _ => exact Nat.le_refl next

theorem le_ofJsonItems (js : List Json) (next : Nat) : next ≤ (ofJsonItems js next).2 := by
  cases js with
  | nil => exact Nat.le_refl next
  | cons j js => exact Nat.le_trans (le_ofJsonFrom j next) (le_ofJsonItems js _)

theorem le_ofJsonMembers (ms : List (String × Json)) (next : Nat) :
    next ≤ (ofJsonMembers ms next).2 := by
  cases ms with
  | nil => exact Nat.le_refl next
  | cons m ms => exact Nat.le_trans (le_ofJsonFrom m.2 next) (le_ofJsonMembers ms _)

end

mutual

/-- A value comes back equal to itself iff nothing in it is lost. -/
theorem equals_ofJsonFrom_iff (v : Value) (next : Nat) (h : v.supply ≤ next) :
    (ofJsonFrom v.toJson next).1.equals v = true ↔ ∀ w ∈ v.leaves, ¬ w.Lost := by
  cases v with
  | array i items =>
      obtain ⟨hi, hitems⟩ := Nat.max_le.mp h
      have hne : (ofJsonItems (toJsonItems items) next).2 ≠ i :=
        Nat.ne_of_gt (Nat.lt_of_lt_of_le hi (le_ofJsonItems _ next))
      rw [toJson, ofJsonFrom_array, equals_array_iff, or_iff_right hne, leaves,
        equalsItems_ofJsonItems_iff items next hitems]
  | object i props =>
      obtain ⟨hi, hprops⟩ := Nat.max_le.mp h
      have hne : (ofJsonMembers (toJsonProps props) next).2 ≠ i :=
        Nat.ne_of_gt (Nat.lt_of_lt_of_le hi (le_ofJsonMembers _ next))
      rw [toJson, ofJsonFrom_object, equals_object_iff, or_iff_right hne, leaves,
        equalsProps_ofJsonMembers_iff props next hprops]
  | number x =>
      have hleaves : (number x).leaves = [number x] := rfl
      rw [toJson, hleaves, List.forall_mem_singleton, lost_number_iff, not_not]
      constructor
      · intro hequal
        apply Classical.byContradiction
        intro hx
        rw [numberToJson_of_not_isFinite hx] at hequal
        cases hequal
      · intro hx
        exact equals_ofJsonFrom_number hx next
  | undefined => exact iff_of_false nofun fun hleaves => hleaves _ List.mem_cons_self .undefined
  | null | bool _ | string _ =>
      exact iff_of_true ((equals_self_iff _).mpr nofun) (List.forall_mem_singleton.mpr nofun)

theorem equalsItems_ofJsonItems_iff (vs : List Value) (next : Nat) (h : supplyItems vs ≤ next) :
    equalsItems (ofJsonItems (toJsonItems vs) next).1 vs = true ↔
      ∀ w ∈ leavesItems vs, ¬ w.Lost := by
  cases vs with
  | nil => exact iff_of_true rfl (List.forall_mem_nil _)
  | cons v vs =>
      obtain ⟨hv, hvs⟩ := Nat.max_le.mp h
      rw [toJsonItems, ofJsonItems_cons, equalsItems, Bool.and_eq_true, leavesItems,
        List.forall_mem_append, equals_ofJsonFrom_iff v next hv,
        equalsItems_ofJsonItems_iff vs _ (Nat.le_trans hvs (le_ofJsonFrom _ next))]

theorem equalsProps_ofJsonMembers_iff (ps : List (String × Value)) (next : Nat)
    (h : supplyProps ps ≤ next) :
    equalsProps (ofJsonMembers (toJsonProps ps) next).1 ps = true ↔
      ∀ w ∈ leavesProps ps, ¬ w.Lost := by
  cases ps with
  | nil => exact iff_of_true rfl (List.forall_mem_nil _)
  | cons p ps =>
      obtain ⟨k, v⟩ := p
      obtain ⟨hv, hps⟩ := Nat.max_le.mp h
      rw [toJsonProps, ofJsonMembers_cons, equalsProps, beq_self_eq_true, Bool.true_and,
        Bool.and_eq_true, leavesProps, List.forall_mem_append, equals_ofJsonFrom_iff v next hv,
        equalsProps_ofJsonMembers_iff ps _ (Nat.le_trans hps (le_ofJsonFrom _ next))]

end

/-! ## both ways -/

/-- **The round trips.**  What is read of the JSON form of a value has that form again; it is the
value itself iff nothing is lost in it, and null stands in it for all that is.  What is written of
the value that a JSON value describes is the JSON value with its numbers in canonical form; so it is
the JSON value itself iff they are canonical, and going around twice is going around once. -/
theorem json_round_trip :
    (∀ (v : Value) (next : Nat), (ofJsonFrom v.toJson next).1.toJson = v.toJson) ∧
    (∀ (v : Value) (next : Nat), v.supply ≤ next →
      ((ofJsonFrom v.toJson next).1.equals v = true ↔ ∀ w ∈ v.leaves, ¬ w.Lost) ∧
      (ofJsonFrom v.toJson next).1.equals v.nulled = true) ∧
    (∀ (j : Json) (next : Nat),
      (ofJsonFrom j next).1.toJson = j.mapNumbers Number.canonical ∧
      ((ofJsonFrom j next).1.toJson = j ↔ ∀ n ∈ j.numbers, n.canonical = n) ∧
      ∀ next', (ofJsonFrom (ofJsonFrom j next).1.toJson next').1.toJson =
        (ofJsonFrom j next).1.toJson) ∧
    (∀ (n : Number) (k : Int) inRange,
      n.canonical = .integer k inRange ↔ n.IsSafeInteger k) ∧
    ∀ (n : Number) (x : Binary64) finite,
      n.canonical = .double x finite ↔ n.toBinary64 = x ∧ ∀ k, ¬ n.IsSafeInteger k := by
  refine ⟨toJson_ofJsonFrom_toJson, fun v next h => ?_, fun j next => ?_,
    fun n k _ => Number.canonical_eq_integer_iff, fun n x _ => Number.canonical_eq_double_iff⟩
  · exact ⟨equals_ofJsonFrom_iff v next h, equals_ofJsonFrom_nulled v next⟩
  · refine ⟨toJson_ofJsonFrom j next, ?_, fun next' => toJson_ofJsonFrom_toJson _ next'⟩
    rw [toJson_ofJsonFrom]
    exact Json.mapNumbers_eq_self_iff _ j

/-- An object with an infinite limit, and rows one of which is missing. -/
def sparse : Value :=
  object 0 [("limit", number (.infinite false)),
    ("rows", array 1 [undefined, number (.zero true), string "a"])]

/-- The value comes back with null for the limit and for the missing row, and then stays as it
is. -/
theorem json_round_trip_sparse :
    ¬ (ofJsonFrom sparse.toJson 2).1.equals sparse = true ∧
    (ofJsonFrom sparse.toJson 2).1.equals (object 0 [("limit", null),
      ("rows", array 1 [null, number (.zero true), string "a"])]) = true ∧
    (ofJsonFrom sparse.nulled.toJson 2).1.equals sparse.nulled = true := by
  obtain ⟨-, hback, -⟩ := json_round_trip
  obtain ⟨hequal, hnulled⟩ := hback sparse 2 (by decide)
  have hmissing : undefined ∈ sparse.leaves := List.mem_cons_of_mem _ List.mem_cons_self
  have hleaves : sparse.nulled.leaves = [null, null, number (.zero true), string "a"] := rfl
  refine ⟨fun h => hequal.mp h undefined hmissing .undefined, hnulled, ?_⟩
  rw [(hback sparse.nulled 2 (by decide)).1, hleaves]
  simp only [List.forall_mem_cons]
  exact ⟨nofun, nofun, nofun, nofun, List.forall_mem_nil _⟩

end Value

end Casebook
