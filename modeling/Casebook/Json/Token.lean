import Casebook.Json.Numeral

/-!
# Casebook.Json.Token

The tokens of JSON text.  What a token is does not depend on the tokens before it; where a
text holds no token, the list of tokens ends in one that tells why.  Whether that matters is
for the reader to say: it may stop before, or expect something else at that place.

* `Token.all` — the tokens of a text.
-/

namespace Casebook.Json

inductive Token where
  | leftBrace
  | rightBrace
  | leftBracket
  | rightBracket
  | comma
  | colon
  | null
  | bool (b : Bool)
  | number (n : Number)
  | string (s : String)
  /-- No token; `quoted` if the place starts like a string. -/
  | invalid (quoted : Bool) (error : ReadError)

namespace Token

def isBlank (c : Char) : Bool := c == ' ' || c == '\t' || c == '\n' || c == '\r'

/-! ## strings -/

/-- The value of a hexadecimal digit. -/
def hexDigit? (c : Char) : Option Nat :=
  if c.isDigit then some (c.toNat - '0'.toNat)
  else if 'a' ≤ c ∧ c ≤ 'f' then some (c.toNat - 'a'.toNat + 10)
  else if 'A' ≤ c ∧ c ≤ 'F' then some (c.toNat - 'A'.toNat + 10)
  else none

/-- Four hexadecimal digits.  A text of less than four bytes ends inside the string. -/
def hex4 (cs : List Char) : Except ReadError (Nat × List Char) :=
  match cs with
  | a :: b :: c :: d :: rest =>
      match hexDigit? a, hexDigit? b, hexDigit? c, hexDigit? d with
      | some a, some b, some c, some d => .ok (((a * 16 + b) * 16 + c) * 16 + d, rest)
      | _, _, _, _ => .error .invalidEscape
  | short =>
      if (String.ofList short).utf8ByteSize < 4 then .error (.unfinished .string)
      else .error .invalidEscape

/-- The start of a second half of a character: a backslash and a `u`. -/
def secondHalf (cs : List Char) : Except ReadError (List Char) :=
  match cs with
  | [] | ['\\'] => .error (.unfinished .string)
  | '\\' :: 'u' :: rest => .ok rest
  | _ => .error .unpairedSurrogate

/-- The character of a code after `\u`: one code of 16 bits, or two that are the halves of a
character beyond. -/
def unicodeEscape (cs : List Char) : Except ReadError (Char × List Char) := do
  let (high, rest) ← hex4 cs
  if 0xDC00 ≤ high ∧ high ≤ 0xDFFF then .error .loneSurrogate
  else if high < 0xD800 ∨ 0xDFFF < high then .ok (Char.ofNat high, rest)
  else
    let rest ← secondHalf rest
    let (low, rest) ← hex4 rest
    if low < 0xDC00 ∨ 0xDFFF < low then .error .loneSurrogate
    else .ok (Char.ofNat ((high - 0xD800) * 0x400 + (low - 0xDC00) + 0x10000), rest)

/-- The character of an escape, after the backslash. -/
def escape (cs : List Char) : Except ReadError (Char × List Char) :=
  match cs with
  | [] => .error (.unfinished .string)
  | 'u' :: rest => unicodeEscape rest
  | c :: rest =>
      match c with
      | '"' | '\\' | '/' => .ok (c, rest)
      | 'b' => .ok ('\x08', rest)
      | 'f' => .ok ('\x0c', rest)
      | 'n' => .ok ('\n', rest)
      | 'r' => .ok ('\r', rest)
      | 't' => .ok ('\t', rest)
      | _ => .error .invalidEscape

/-- The rest of a string whose first characters, in reverse, are `read`.  The fuel bounds the
characters still to be looked at. -/
def stringRest (read : List Char) : Nat → List Char → Except ReadError (String × List Char)
  | 0, _ | _, [] => .error (.unfinished .string)
  | fuel + 1, c :: cs =>
      match c with
      | '"' => .ok (String.ofList read.reverse, cs)
      | '\\' =>
          match escape cs with
          | .ok (c, cs) => stringRest (c :: read) fuel cs
          | .error e => .error e
      | _ => if c.toNat < 0x20 then .error .controlCharacter else stringRest (c :: read) fuel cs

/-! ## the other tokens -/

/-- The letters of a word that has begun: all of them, or the first place that differs. -/
def word (letters : List Char) (token : Token) (cs : List Char) :
    Except ReadError (Token × List Char) :=
  match letters, cs with
  | [], _ => .ok (token, cs)
  | _ :: _, [] => .error (.unfinished .value)
  | l :: ls, c :: cs => if l = c then word ls token cs else .error .expectedIdent

/-- A number, if it is in range. -/
def numeral (cs : List Char) : Except ReadError (Token × List Char) := do
  let (n, rest) ← Numeral.scan cs
  .ok (.number (← n.number), rest)

/-- The token at the start of a text. -/
def scan (c : Char) (cs : List Char) : Except ReadError (Token × List Char) :=
  match c with
  | '\x7b' => .ok (leftBrace, cs)
  | '\x7d' => .ok (rightBrace, cs)
  | '[' => .ok (leftBracket, cs)
  | ']' => .ok (rightBracket, cs)
  | ',' => .ok (comma, cs)
  | ':' => .ok (colon, cs)
  | 'n' => word ['u', 'l', 'l'] null cs
  | 't' => word ['r', 'u', 'e'] (bool true) cs
  | 'f' => word ['a', 'l', 's', 'e'] (bool false) cs
  | '"' => (stringRest [] (cs.length + 1) cs).map fun r => (string r.1, r.2)
  | _ => if c == '-' || c.isDigit then numeral (c :: cs) else .error .expectedValue

/-- The tokens of a text after those that are `read`, the last one first.  The fuel bounds the
characters still to be looked at. -/
def allFrom (read : List Token) : Nat → List Char → List Token
  | 0, _ | _, [] => read.reverse
  | fuel + 1, c :: cs =>
      if isBlank c then allFrom read fuel cs
      else match scan c cs with
        | .ok (token, rest) => allFrom (token :: read) fuel rest
        | .error e => (invalid (c == '"') e :: read).reverse

/-- The tokens of a text. -/
def all (text : String) : List Token :=
  let cs := text.toList
  allFrom [] (cs.length + 1) cs

end Token

end Casebook.Json
