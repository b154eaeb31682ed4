import Casebook.Json.Basic
import Casebook.Text.Quoted

/-!
# Casebook.Json.Error

What can be wrong with JSON text, or with its contents where a certain form is expected.

* `Json.ReadError.message` — the wording;
* `Json.ReadError.category` — whether the text ended, is malformed, or has wrong contents.
-/

namespace Casebook.Json

/-- Where the text ended too early. -/
inductive Unfinished where
  | value
  | string
  | list
  | object
deriving DecidableEq

/-- A value where another type was expected. -/
inductive Found where
  | null
  | bool (b : Bool)
  | number (n : Number)
  | string (s : String)
  | sequence
  | map
deriving DecidableEq

def Found.text : Found → String
  | null => "null"
  | bool b => "boolean `" ++ (if b then "true" else "false") ++ "`"
  | number (.integer n _) => "integer `" ++ toString n ++ "`"
  | number (.double x h) => "floating point `" ++ (Number.double x h).text ++ "`"
  | string s => "string " ++ Text.quoted s
  | sequence => "sequence"
  | map => "map"

/-- What is wrong with the text or its contents. -/
inductive ReadError where
  | unfinished (what : Unfinished)
  -- malformed text
  | expectedValue
  | expectedIdent
  | expectedCommaOrListEnd
  | expectedCommaOrObjectEnd
  | expectedColon
  | keyMustBeString
  | trailingComma
  | trailingCharacters
  | invalidNumber
  | numberOutOfRange
  | invalidEscape
  | loneSurrogate
  | unpairedSurrogate
  | controlCharacter
  | recursionLimit
  -- wrong contents
  | unknownField (name : String) (expected : List String)
  | duplicateField (name : String)
  | missingField (name : String)
  | unknownVariant (name : String) (expected : List String)
  | invalidType (found : Found) (expected : String)
  | invalidLength (length : Nat) (expected : String)
deriving DecidableEq

/-- The classes of errors. -/
inductive Category where
  | eof
  | syntactic
  | data
deriving DecidableEq

def Category.name : Category → String
  | eof => "eof"
  | syntactic => "syntax"
  | data => "data"

/-- Names between backquotes, as a choice. -/
def oneOf (names : List String) : String :=
  "expected one of " ++ ", ".intercalate (names.map fun name => "`" ++ name ++ "`")

namespace ReadError

def category : ReadError → Category
  | unfinished _ => .eof
  | unknownField .. | duplicateField _ | missingField _ | unknownVariant .. | invalidType ..
  | invalidLength .. => .data
  | _ => .syntactic

def message : ReadError → String
  | unfinished .value => "EOF while parsing a value"
  | unfinished .string => "EOF while parsing a string"
  | unfinished .list => "EOF while parsing a list"
  | unfinished .object => "EOF while parsing an object"
  | expectedValue => "expected value"
  | expectedIdent => "expected ident"
  | expectedCommaOrListEnd => "expected `,` or `]`"
  | expectedCommaOrObjectEnd => "expected `,` or `\x7d`"
  | expectedColon => "expected `:`"
  | keyMustBeString => "key must be a string"
  | trailingComma => "trailing comma"
  | trailingCharacters => "trailing characters"
  | invalidNumber => "invalid number"
  | numberOutOfRange => "number out of range"
  | invalidEscape => "invalid escape"
  | loneSurrogate => "lone leading surrogate in hex escape"
  | unpairedSurrogate => "unexpected end of hex escape"
  | controlCharacter =>
      "control character (\\u0000-\\u001F) found while parsing a string"
  | recursionLimit => "recursion limit exceeded"
  | unknownField name expected => "unknown field `" ++ name ++ "`, " ++ oneOf expected
  | duplicateField name => "duplicate field `" ++ name ++ "`"
  | missingField name => "missing field `" ++ name ++ "`"
  | unknownVariant name expected => "unknown variant `" ++ name ++ "`, " ++ oneOf expected
  | invalidType found expected => "invalid type: " ++ found.text ++ ", expected " ++ expected
  | invalidLength length expected =>
      "invalid length " ++ toString length ++ ", expected " ++ expected

end ReadError

end Casebook.Json
