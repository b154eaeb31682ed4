import Casebook.Value.Basic

/-!
# Casebook.Value.Equality

The two equalities of values.  Strict equality tells arrays and objects apart by identity;
structural equality compares their contents, and takes equal identities as equal contents
without looking.

* `Value.strictEquals` — primitives by value, arrays and objects by identity;
* `Value.equals` — contents all the way down, identities as a short cut.
-/

namespace Casebook.Value

/-- Strict equality: primitives by value, arrays and objects by identity. -/
def strictEquals : Value → Value → Bool
  | undefined, undefined => true
  | null, null => true
  | bool a, bool b => a == b
  | number x, number y => x.equal y
  | string s, string t => s == t
  | array i _, array j _ => i == j
  | object i _, object j _ => i == j
  | _, _ => false

mutual

/-- Structural equality: the same tree with the same keys and equal primitives.  An array
or object equals itself even where it holds NaN. -/
def equals : Value → Value → Bool
  | undefined, undefined => true
  | null, null => true
  | bool a, bool b => a == b
  | number x, number y => x.equal y
  | string s, string t => s == t
  | array i vs, array j ws => i == j || equalsItems vs ws
  | object i ps, object j qs => i == j || equalsProps ps qs
  | _, _ => false

def equalsItems : List Value → List Value → Bool
  | [], [] => true
  | v :: vs, w :: ws => v.equals w && equalsItems vs ws
  | _, _ => false

def equalsProps : List (String × Value) → List (String × Value) → Bool
  | [], [] => true
  | (k, v) :: ps, (l, w) :: qs => k == l && v.equals w && equalsProps ps qs
  | _, _ => false

end

end Casebook.Value
