import Casebook.Json.Token

/-!
# Casebook.Json.Reader

Readers of JSON, from tokens.  A reader takes what it needs from the front of the tokens and
stops at the first thing that is wrong; what it expects decides which error that is.  Arrays
and objects nest up to a limit, whatever they are read into.

* `Reader.sequence`, `Reader.members` — the brackets and commas of arrays and objects;
* `Reader.value` — any value;
* `Reader.string`, `Reader.boolean`, … — values of one type;
* `Json.read` — a whole text.
-/

namespace Casebook.Json

/-- Takes what it needs from the tokens, and leaves the others. -/
abbrev Reader (α : Type) := List Token → Except ReadError (α × List Token)

namespace Reader

/-- How many arrays and objects may be open at once. -/
def nestingLimit : Nat := 127

/-- The first of some tokens is no value of the expected type. -/
def mismatch {α : Type} (expected : String) : Reader α
  | [] => .error (.unfinished .value)
  | t :: _ =>
      match t with
      | .null => .error (.invalidType .null expected)
      | .bool b => .error (.invalidType (.bool b) expected)
      | .number n => .error (.invalidType (.number n) expected)
      | .string s => .error (.invalidType (.string s) expected)
      | .leftBracket => .error (.invalidType .sequence expected)
      | .leftBrace => .error (.invalidType .map expected)
      | .invalid _ e => .error e
      | .rightBrace | .rightBracket | .comma | .colon => .error .expectedValue

def string : Reader String
  | .string s :: ts => .ok (s, ts)
  | ts => mismatch "a string" ts

def boolean : Reader Bool
  | .bool b :: ts => .ok (b, ts)
  | ts => mismatch "a boolean" ts

/-- A string, or null for none. -/
def optionalString : Reader (Option String)
  | .null :: ts => .ok (none, ts)
  | ts => (string ts).map fun r => (some r.1, r.2)

/-! ## arrays -/

/-- Whether another item follows in an array.  Before the first one no comma stands; after a
comma the end is not accepted. -/
def nextItem (first : Bool) : Reader Bool
  | [] => .error (.unfinished .list)
  | .rightBracket :: ts => .ok (false, .rightBracket :: ts)
  | .comma :: ts =>
      if first then .ok (true, .comma :: ts)
      else match ts with
        | [] => .error (.unfinished .value)
        | .rightBracket :: _ => .error .trailingComma
        | ts => .ok (true, ts)
  | ts => if first then .ok (true, ts) else .error .expectedCommaOrListEnd

/-- The end of an array whose items have been read. -/
def endItems : Reader Unit
  | [] => .error (.unfinished .list)
  | .rightBracket :: ts => .ok ((), ts)
  | .comma :: .rightBracket :: _ => .error .trailingComma
  | _ => .error .trailingCharacters

/-- The items of an array up to its end; the fuel bounds their number. -/
def items {α : Type} (item : Reader α) : Nat → Bool → Reader (List α)
  | 0, _, _ => .error .trailingCharacters
  | fuel + 1, first, ts => do
      match ← nextItem first ts with
      | (false, ts) =>
          let ((), ts) ← endItems ts
          .ok ([], ts)
      | (true, ts) =>
          let (a, ts) ← item ts
          let (as, ts) ← items item fuel false ts
          .ok (a :: as, ts)

/-- An array after its opening bracket. -/
def sequence {α : Type} (item : Reader α) : Reader (List α) :=
  fun ts => items item (ts.length + 1) true ts

/-! ## objects -/

/-- The key of the next member of an object, none at its end. -/
def nextKey (first : Bool) : Reader (Option String)
  | [] => .error (.unfinished .object)
  | .rightBrace :: ts => .ok (none, ts)
  | .comma :: ts =>
      if first then .error .keyMustBeString
      else match ts with
        | [] => .error (.unfinished .value)
        | .rightBrace :: _ => .error .trailingComma
        | ts => key ts
  | ts => if first then key ts else .error .expectedCommaOrObjectEnd
where
  key : Reader (Option String)
    | .string s :: ts => .ok (some s, ts)
    | .invalid true e :: _ => .error e
    | _ => .error .keyMustBeString

/-- The colon after a key. -/
def colon : Reader Unit
  | [] => .error (.unfinished .object)
  | .colon :: ts => .ok ((), ts)
  | _ => .error .expectedColon

/-- The members of an object up to its end.  The reader of a member sees its key and what has
been read so far, and begins at the colon; the fuel bounds the number of members. -/
def members {σ : Type} (member : String → σ → Reader σ) : Nat → Bool → σ → Reader σ
  | 0, _, _, _ => .error .trailingCharacters
  | fuel + 1, first, s, ts => do
      match ← nextKey first ts with
      | (none, ts) => .ok (s, ts)
      | (some key, ts) =>
          let (s, ts) ← member key s ts
          members member fuel false s ts

/-- An object after its opening brace. -/
def object {σ : Type} (member : String → σ → Reader σ) (s : σ) : Reader σ :=
  fun ts => members member (ts.length + 1) true s ts

/-! ## any value -/

/-- Any value, in which `depth` arrays and objects may be open at once.  Of several members
with one key the last counts. -/
def value : Nat → Reader Json
  | _, .null :: ts => .ok (.null, ts)
  | _, .bool b :: ts => .ok (.bool b, ts)
  | _, .number n :: ts => .ok (.number n, ts)
  | _, .string s :: ts => .ok (.string s, ts)
  | 0, .leftBracket :: _ | 0, .leftBrace :: _ => .error .recursionLimit
  | depth + 1, .leftBracket :: ts =>
      (sequence (value depth) ts).map fun r => (.array r.1, r.2)
  | depth + 1, .leftBrace :: ts =>
      let member (key : String) (ms : Props Json) : Reader (Props Json) := fun ts => do
        let ((), ts) ← colon ts
        let (j, ts) ← value depth ts
        .ok (ms.insert key j, ts)
      (object member [] ts).map fun r => (.object r.1, r.2)
  | _, .invalid _ e :: _ => .error e
  | _, [] => .error (.unfinished .value)
  | _, _ => .error .expectedValue

end Reader

/-- What a reader makes of a whole text; nothing may follow. -/
def readWith {α : Type} (reader : Reader α) (text : String) : Except ReadError α := do
  match ← reader (Token.all text) with
  | (a, []) => .ok a
  | (_, _ :: _) => .error .trailingCharacters

/-- The value of a text. -/
def read (text : String) : Except ReadError Json := readWith (Reader.value Reader.nestingLimit) text

end Casebook.Json
