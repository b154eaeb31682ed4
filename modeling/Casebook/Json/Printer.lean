import Casebook.Json.Basic
import Casebook.Text.Quoted

/-!
# Casebook.Json.Printer

JSON text, without spaces or laid out over lines.

* `Json.compact` — no spaces at all;
* `Json.pretty` — one item or member a line, indented by two spaces a level.
-/

namespace Casebook.Json

/-- One character inside a string: the quote, the backslash and control characters are
escaped, all else stands for itself. -/
def escaped (c : Char) : List Char :=
  match c with
  | '"' => ['\\', '"']
  | '\\' => ['\\', '\\']
  | '\x08' => ['\\', 'b']
  | '\x0c' => ['\\', 'f']
  | '\n' => ['\\', 'n']
  | '\r' => ['\\', 'r']
  | '\t' => ['\\', 't']
  | _ =>
      if c.toNat < 0x20 then
        let digits := Text.hex c.toNat
        '\\' :: 'u' :: (List.replicate (4 - digits.length) '0' ++ digits)
      else [c]

/-- A string as JSON text. -/
def stringText (s : String) : String :=
  String.ofList ('"' :: s.toList.flatMap escaped ++ ['"'])

/-- What both layouts write alike. -/
def scalarText : Json → String
  | null => "null"
  | bool b => if b then "true" else "false"
  | number n => n.text
  | string s => stringText s
  | array _ => "[]"
  | object _ => "\x7b\x7d"

mutual

/-- The text of a value without spaces. -/
def compact : Json → String
  | array items => "[" ++ ",".intercalate (compactItems items) ++ "]"
  | object members => "\x7b" ++ ",".intercalate (compactMembers members) ++ "\x7d"
  | j => j.scalarText

def compactItems : List Json → List String
  | [] => []
  | j :: js => j.compact :: compactItems js

def compactMembers : List (String × Json) → List String
  | [] => []
  | (k, j) :: ms => (stringText k ++ ":" ++ j.compact) :: compactMembers ms

end

/-- A new line, indented by `level` steps. -/
def newLine (level : Nat) : String := String.ofList ('\n' :: List.replicate (2 * level) ' ')

/-- Texts on lines of their own between brackets; the closing one stands at `level`. -/
def block (first last : String) (level : Nat) (texts : List String) : String :=
  first ++ newLine (level + 1) ++ ("," ++ newLine (level + 1)).intercalate texts ++
    newLine level ++ last

mutual

/-- The laid out text of a value that starts at `level`. -/
def prettyAt (level : Nat) : Json → String
  | array (j :: js) => block "[" "]" level (prettyItems (level + 1) (j :: js))
  | object (m :: ms) => block "\x7b" "\x7d" level (prettyMembers (level + 1) (m :: ms))
  | j => j.scalarText

def prettyItems (level : Nat) : List Json → List String
  | [] => []
  | j :: js => prettyAt level j :: prettyItems level js

def prettyMembers (level : Nat) : List (String × Json) → List String
  | [] => []
  | (k, j) :: ms => (stringText k ++ ": " ++ prettyAt level j) :: prettyMembers level ms

end

/-- The laid out text of a value. -/
def pretty (j : Json) : String := j.prettyAt 0

end Casebook.Json
