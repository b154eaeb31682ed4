import Casebook.Binary64.Shortest
import Casebook.Text.Quoted
import Casebook.Value.Basic

/-!
# Casebook.Value.Text

How values are shown: `Value.display` for messages, with bare keys and primitives as they
are written in source text, and `Value.inspect` for diagnostics, with the constructor in
front of each value and quoted keys.

* `numberLayout`, `inspectedNumber` — doubles are written in full, without an exponent.
-/

namespace Casebook.Value

/-- Numbers in messages: every place written out, a tie goes up. -/
def numberLayout : Binary64.Layout where
  tie := .up
  positional _ := true
  point := false
  nan := "NaN"
  infinity := "Infinity"

/-- Numbers in diagnostics: the same, with a short infinity. -/
def inspectedNumber : Binary64.Layout := { numberLayout with infinity := "inf" }

/-- Texts one after the other, `, ` between them. -/
def commaSeparated (texts : List String) : String := ", ".intercalate texts

mutual

/-- The text of a value in messages. -/
def display : Value → String
  | undefined => "undefined"
  | null => "null"
  | bool b => if b then "true" else "false"
  | number x => x.text numberLayout
  | string s => Text.quoted s
  | array _ items => "[" ++ commaSeparated (displayItems items) ++ "]"
  | object _ [] => "\x7b\x7d"
  | object _ (p :: ps) => "\x7b " ++ commaSeparated (displayProps (p :: ps)) ++ " \x7d"

def displayItems : List Value → List String
  | [] => []
  | v :: vs => v.display :: displayItems vs

def displayProps : List (String × Value) → List String
  | [] => []
  | (k, v) :: ps => (k ++ ": " ++ v.display) :: displayProps ps

end

mutual

/-- The text of a value in diagnostics. -/
def inspect : Value → String
  | undefined => "Undefined"
  | null => "Null"
  | bool b => if b then "Bool(true)" else "Bool(false)"
  | number x => "Number(" ++ x.text inspectedNumber ++ ")"
  | string s => "Str(" ++ Text.quoted s ++ ")"
  | array _ items => "Array([" ++ commaSeparated (inspectItems items) ++ "])"
  | object _ props => "\x7b" ++ commaSeparated (inspectProps props) ++ "\x7d"

def inspectItems : List Value → List String
  | [] => []
  | v :: vs => v.inspect :: inspectItems vs

def inspectProps : List (String × Value) → List String
  | [] => []
  | (k, v) :: ps => (Text.quoted k ++ ": " ++ v.inspect) :: inspectProps ps

end

end Casebook.Value
