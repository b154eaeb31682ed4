import Casebook.Binary64.Basic
import Casebook.Table

/-!
# Casebook.Value.Basic

Dynamically typed values.  Arrays and objects carry an *identity*: two of them are the same
thing iff their identities are equal, whatever they contain.  Whoever makes an array or
object draws a fresh identity from a supply; `Value.supply` is the first one that a value
leaves free.  Strings carry none, although a program may keep them behind shared handles:
both equalities compare strings by content, so that no one can tell two handles apart.

* `Value.get?` — the property of an object;
* `Value.Ordered` — properties are listed by key, each key once;
* `Value.Coherent` — one identity always has the same contents.
-/

namespace Casebook

/-! ## kinds -/

/-- What a value is, apart from its contents. -/
inductive Kind where
  | undefined | null | boolean | number | string | array | object
deriving DecidableEq

namespace Kind

/-- Every kind, in the order they are listed to users. -/
def all : List Kind := [undefined, null, boolean, number, string, array, object]

def name : Kind → String
  | undefined => "undefined"
  | null => "null"
  | boolean => "boolean"
  | number => "number"
  | string => "string"
  | array => "array"
  | object => "object"

/-- The kind of the given name. -/
def ofName? (s : String) : Option Kind := all.find? fun k => k.name == s

/-- A kind is found under no name but its own. -/
theorem name_of_ofName? {s : String} {k : Kind} (h : ofName? s = some k) : k.name = s := by
  simpa using List.find?_some h

end Kind

/-! ## values -/

/-- A value.  The properties of an object are listed by key. -/
inductive Value where
  | undefined
  | null
  | bool (b : Bool)
  | number (x : Binary64)
  | string (s : String)
  | array (identity : Nat) (items : List Value)
  | object (identity : Nat) (props : List (String × Value))

namespace Value

instance : Inhabited Value := ⟨undefined⟩

def kind : Value → Kind
  | undefined => .undefined
  | null => .null
  | bool _ => .boolean
  | number _ => .number
  | string _ => .string
  | array .. => .array
  | object .. => .object

def isUndefined : Value → Bool
  | undefined => true
  | _ => false

def isNullish : Value → Bool
  | undefined | null => true
  | _ => false

def number? : Value → Option Binary64
  | number x => some x
  | _ => none

def string? : Value → Option String
  | string s => some s
  | _ => none

def items? : Value → Option (List Value)
  | array _ items => some items
  | _ => none

def props? : Value → Option (Props Value)
  | object _ props => some props
  | _ => none

/-- The own property of an object, none for an absent one and for any other value.  A
property that is there may hold `undefined`. -/
def get? (v : Value) (key : String) : Option Value :=
  v.props?.bind fun props => props.lookup key

/-! ## identities -/

mutual

/-- The least identity above all those in a value. -/
def supply : Value → Nat
  | array i items => max (i + 1) (supplyItems items)
  | object i props => max (i + 1) (supplyProps props)
  | _ => 0

def supplyItems : List Value → Nat
  | [] => 0
  | v :: vs => max v.supply (supplyItems vs)

def supplyProps : List (String × Value) → Nat
  | [] => 0
  | (_, v) :: ps => max v.supply (supplyProps ps)

end

mutual

/-- The arrays and objects in a value, itself included, outermost first. -/
def nodes : Value → List Value
  | array i items => array i items :: nodesItems items
  | object i props => object i props :: nodesProps props
  | _ => []

def nodesItems : List Value → List Value
  | [] => []
  | v :: vs => v.nodes ++ nodesItems vs

def nodesProps : List (String × Value) → List Value
  | [] => []
  | (_, v) :: ps => v.nodes ++ nodesProps ps

end

/-- The identity of an array or object. -/
def identity? : Value → Option Nat
  | array i _ | object i _ => some i
  | _ => none

/-- Among the given values, and all they contain, an identity always belongs to the same
array or object. -/
def Coherent (vs : List Value) : Prop :=
  ∀ v ∈ nodesItems vs, ∀ w ∈ nodesItems vs, v.identity? = w.identity? → v = w

mutual

/-- The properties of every object in a value are listed by key, each key once. -/
def Ordered : Value → Prop
  | array _ items => OrderedItems items
  | object _ props => Props.Sorted props ∧ OrderedProps props
  | _ => True

def OrderedItems : List Value → Prop
  | [] => True
  | v :: vs => v.Ordered ∧ OrderedItems vs

def OrderedProps : List (String × Value) → Prop
  | [] => True
  | (_, v) :: ps => v.Ordered ∧ OrderedProps ps

end

end Value

end Casebook
