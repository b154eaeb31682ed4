import Casebook.Binary64.Rounding
import Casebook.Binary64.Shortest
import Casebook.Table

/-!
# Casebook.Json.Basic

JSON values.  A number keeps the form it is written in: an integer of 64 bits, or a double.

* `Json.Number.toBinary64` — the double nearest to a number, which is finite;
* `Json.Ordered` — members are listed by key, each key once, as every reader leaves them.
-/

namespace Casebook

-- powers are those that `Nat` and `Int` come with
attribute [local instance (high)] instPowNat

namespace Json

/-- A number.  Integers are those of 64 bits, with or without a sign; doubles are finite. -/
inductive Number where
  | integer (n : Int) (inRange : -2 ^ (63 : Nat) ≤ n ∧ n < 2 ^ (64 : Nat))
  | double (x : Binary64) (finite : x.isFinite = true)
deriving DecidableEq

namespace Number

instance : Inhabited Number := ⟨integer 0 (by decide)⟩

/-- The double nearest to a number. -/
def toBinary64 : Number → Binary64
  | integer n _ => .ofInt n
  | double x _ => x

/-- No number is too great for a double. -/
theorem isFinite_toBinary64 (n : Number) : n.toBinary64.isFinite = true := by
  cases n with
  | integer n inRange => exact Binary64.isFinite_ofInt (by omega)
  | double x finite => exact finite

/-- Doubles in JSON text: a first digit from the fifth decimal to the sixteenth place of the
whole needs no exponent, a point is always there, and a tie goes to the even digit. -/
def layout : Binary64.Layout where
  tie := .even
  positional place := -5 ≤ place && place ≤ 15
  point := true
  nan := "null"
  infinity := "null"

/-- The text of a number. -/
def text : Number → String
  | integer n _ => toString n
  | double x _ => x.text layout

end Number

end Json

/-- A JSON value.  The members of an object are listed by key. -/
inductive Json where
  | null
  | bool (b : Bool)
  | number (n : Json.Number)
  | string (s : String)
  | array (items : List Json)
  | object (members : List (String × Json))

namespace Json

instance : Inhabited Json := ⟨null⟩

mutual

/-- The members of every object in a value are listed by key, each key once. -/
def Ordered : Json → Prop
  | array items => OrderedItems items
  | object members => Props.Sorted members ∧ OrderedMembers members
  | _ => True

def OrderedItems : List Json → Prop
  | [] => True
  | j :: js => j.Ordered ∧ OrderedItems js

def OrderedMembers : List (String × Json) → Prop
  | [] => True
  | (_, j) :: ms => j.Ordered ∧ OrderedMembers ms

end

end Json

end Casebook
