import Casebook.Json.Convert
import Casebook.Pattern.Basic

/-!
# Casebook.Document.PatternCode

Patterns written in JSON.  Primitives are literals, arrays are tuples and objects are object
shapes.  An object whose keys all start with `$` is a matcher instead:

```
{"$any": true}                    anything
{"$select": "name"}               a capture (null or true: without a name)
{"$select": …, "$in": p}          a capture of what p matches
{"$not": p}  {"$optional": p}  {"$array": p}
{"$and": […]}  {"$or": […]}
{"$kind": "string"}               a kind, or "nullish"
```

* `Pattern.ofJson` — the pattern that a JSON value writes;
* `PatternFault` — what can be wrong with it.
-/

namespace Casebook

/-- What is wrong with a written pattern. -/
inductive PatternFault where
  /-- `$in` stands without `$select`. -/
  | strayIn
  /-- A matcher has more keys than it takes. -/
  | extraKeys (matcher : String)
  | notAList (matcher : String)
  | notTrue
  | notASelection
  | notAKind
  | unknownKind (name : String)
  | unknownMatcher (name : String)
deriving DecidableEq

def PatternFault.message : PatternFault → String
  | strayIn => "`$in` is only valid next to `$select`"
  | extraKeys matcher => "matcher `" ++ matcher ++ "` takes no other keys"
  | notAList matcher => "`" ++ matcher ++ "` expects an array of patterns"
  | notTrue => "`$any` expects `true`"
  | notASelection => "`$select` expects a name, `null` or `true`"
  | notAKind => "`$kind` expects a kind name"
  | unknownKind name => "unknown kind `" ++ name ++ "`"
  | unknownMatcher name => "unknown matcher `" ++ name ++ "`"

namespace Pattern

/-- Whether members form a matcher: there are some, and every key starts with `$`. -/
def isMatcher (members : Props Json) : Bool :=
  !members.isEmpty && members.all fun m => m.1.startsWith "$"

/-- Where a selection is recorded. -/
def keyOfJson : Json → Except PatternFault SelectionKey
  | .string name => .ok (.named name)
  | .null | .bool true => .ok .anonymous
  | _ => .error .notASelection

/-- The pattern of a kind. -/
def kindOfJson : Json → Except PatternFault Pattern
  | .string "nullish" => .ok nullish
  | .string name =>
      match Kind.ofName? name with
      | some k => .ok (kind k)
      | none => .error (.unknownKind name)
  | _ => .error .notAKind

/-- Members that are no matcher of one key, nor a selection with `$in`. -/
def faultOfMembers (members : Props Json) : PatternFault :=
  match members.find? fun m => m.1 ≠ "$in" with
  | some m => .extraKeys m.1
  | none => .strayIn

mutual

/-- The pattern that a JSON value writes. -/
def ofJson : Json → Except PatternFault Pattern
  | .array items => (ofJsonItems items).map tuple
  | .object members =>
      if isMatcher members then
        match members with
        | [(name, arg)] =>
            if name = "$any" then
              match arg with
              | .bool true => .ok wildcard
              | _ => .error .notTrue
            else if name = "$select" then (keyOfJson arg).map fun key => select key none
            else if name = "$not" then (ofJson arg).map not
            else if name = "$and" then
              match arg with
              | .array items => (ofJsonItems items).map all
              | _ => .error (.notAList name)
            else if name = "$or" then
              match arg with
              | .array items => (ofJsonItems items).map any
              | _ => .error (.notAList name)
            else if name = "$optional" then (ofJson arg).map optional
            else if name = "$array" then (ofJson arg).map each
            else if name = "$kind" then kindOfJson arg
            else if name = "$in" then .error .strayIn
            else .error (.unknownMatcher name)
        | [(first, inner), (second, arg)] =>
            if first = "$in" ∧ second = "$select" then
              match keyOfJson arg with
              | .error fault => .error fault
              | .ok key => (ofJson inner).map fun p => select key (some p)
            else .error (faultOfMembers members)
        | _ => .error (faultOfMembers members)
      else (ofJsonMembers members).map object
  | .null => .ok (literal .null)
  | .bool b => .ok (literal (.bool b))
  | .number n => .ok (literal (.number n.toBinary64))
  | .string s => .ok (literal (.string s))

def ofJsonItems : List Json → Except PatternFault (List Pattern)
  | [] => .ok []
  | j :: js =>
      match ofJson j with
      | .error fault => .error fault
      | .ok p => (ofJsonItems js).map (p :: ·)

def ofJsonMembers : List (String × Json) → Except PatternFault (List (String × Pattern))
  | [] => .ok []
  | (name, j) :: ms =>
      match ofJson j with
      | .error fault => .error fault
      | .ok p => (ofJsonMembers ms).map ((name, p) :: ·)

end

end Pattern

end Casebook
