import Casebook.Json.Basic
import Casebook.Value.Basic

/-!
# Casebook.Json.Convert

Values from JSON and back.  JSON knows no `undefined` and no infinite numbers: these are
written as null.  A double that is a safe integer is written as an integer.

`Value.ofJsonFrom` draws identities from a supply, and they are as fresh as that supply.
`Value.ofJson` starts from zero, whatever identities other values have: what it says of the
contents is meant, and no comparison with identities from elsewhere is.

* `Value.ofJson` — the value that JSON describes: numbers become doubles;
* `Value.toJson` — the JSON form of a value.
-/

namespace Casebook.Value

-- powers are those that `Nat` and `Int` come with
attribute [local instance (high)] instPowNat

mutual

/-- The value that a JSON value describes, drawing identities from `next` on, and the next
one left. -/
def ofJsonFrom : Json → Nat → Value × Nat
  | .null, next => (null, next)
  | .bool b, next => (bool b, next)
  | .number n, next => (number n.toBinary64, next)
  | .string s, next => (string s, next)
  | .array items, next =>
      let (vs, next) := ofJsonItems items next
      (array next vs, next + 1)
  | .object members, next =>
      let (ps, next) := ofJsonMembers members next
      (object next ps, next + 1)

def ofJsonItems : List Json → Nat → List Value × Nat
  | [], next => ([], next)
  | j :: js, next =>
      let (v, next) := ofJsonFrom j next
      let (vs, next) := ofJsonItems js next
      (v :: vs, next)

def ofJsonMembers : List (String × Json) → Nat → List (String × Value) × Nat
  | [], next => ([], next)
  | (k, j) :: ms, next =>
      let (v, next) := ofJsonFrom j next
      let (ps, next) := ofJsonMembers ms next
      ((k, v) :: ps, next)

end

section

variable (next : Nat)

theorem ofJsonFrom_array (items : List Json) :
    ofJsonFrom (.array items) next =
      (array (ofJsonItems items next).2 (ofJsonItems items next).1,
        (ofJsonItems items next).2 + 1) := rfl

theorem ofJsonFrom_object (members : List (String × Json)) :
    ofJsonFrom (.object members) next =
      (object (ofJsonMembers members next).2 (ofJsonMembers members next).1,
        (ofJsonMembers members next).2 + 1) := rfl

theorem ofJsonItems_cons (j : Json) (js : List Json) :
    ofJsonItems (j :: js) next =
      ((ofJsonFrom j next).1 :: (ofJsonItems js (ofJsonFrom j next).2).1,
        (ofJsonItems js (ofJsonFrom j next).2).2) := rfl

theorem ofJsonMembers_cons (k : String) (j : Json) (ms : List (String × Json)) :
    ofJsonMembers ((k, j) :: ms) next =
      ((k, (ofJsonFrom j next).1) :: (ofJsonMembers ms (ofJsonFrom j next).2).1,
        (ofJsonMembers ms (ofJsonFrom j next).2).2) := rfl

end

/-- The value that a JSON value describes.  Its arrays and objects are told apart from one another,
but not from those of any other value. -/
def ofJson (j : Json) : Value := (ofJsonFrom j 0).1

/-- A safe integer fits into the integers that JSON is read with. -/
theorem inRange_of_safeInteger? {x : Binary64} {n : Int} (h : x.safeInteger? = some n) :
    -2 ^ (63 : Nat) ≤ n ∧ n < 2 ^ (64 : Nat) := by
  have := Binary64.natAbs_le_of_safeInteger? h
  simp only [Binary64.maxSafeInteger] at this
  omega

/-- A double as JSON: an integer where that is exact, null where it is not finite. -/
def numberToJson (x : Binary64) : Json :=
  match h : x.safeInteger? with
  | some n => .number (.integer n (inRange_of_safeInteger? h))
  | none => if h : x.isFinite = true then .number (.double x h) else .null

/-- A safe integer is written without a fraction. -/
theorem numberToJson_of_safeInteger? {x : Binary64} {n : Int} (h : x.safeInteger? = some n) :
    numberToJson x = .number (.integer n (inRange_of_safeInteger? h)) := by
  unfold numberToJson
  split
  case h_1 m hm =>
      obtain rfl := Option.some.inj (hm.symm.trans h)
      rfl
  case h_2 hm => cases hm.symm.trans h

/-- Any other finite double is written as a double. -/
theorem numberToJson_of_isFinite {x : Binary64} (h : x.safeInteger? = none)
    (hx : x.isFinite = true) : numberToJson x = .number (.double x hx) := by
  unfold numberToJson
  split
  case h_1 hm => cases hm.symm.trans h
  case h_2 => exact dif_pos hx

/-- The infinities and NaN are written as null. -/
theorem numberToJson_of_not_isFinite {x : Binary64} (hx : ¬ x.isFinite = true) :
    numberToJson x = .null := by
  unfold numberToJson
  split
  case h_1 hm => exact absurd (Binary64.isFinite_of_safeInteger? hm) hx
  case h_2 => exact dif_neg hx

mutual

/-- The JSON form of a value. -/
def toJson : Value → Json
  | undefined | null => .null
  | bool b => .bool b
  | number x => numberToJson x
  | string s => .string s
  | array _ items => .array (toJsonItems items)
  | object _ props => .object (toJsonProps props)

def toJsonItems : List Value → List Json
  | [] => []
  | v :: vs => v.toJson :: toJsonItems vs

def toJsonProps : List (String × Value) → List (String × Json)
  | [] => []
  | (k, v) :: ps => (k, v.toJson) :: toJsonProps ps

end

end Casebook.Value
