import Casebook.Document.Basic
import Casebook.Json.Reader

/-!
# Casebook.Document.Reader

Documents from JSON text.  Fields are read as they are met, so the first thing that is wrong
decides.  A document and a case are objects, or arrays of their fields in order; the form of
a case is a name, or an object with that name as its only key and null under it.

* `Record` — fields by name, each with its reader;
* `CaseDocument.ofText` — the document of a text.
-/

namespace Casebook

open Json Json.Reader

/-! ## records -/

/-- One field of a record that is gathered in a `σ`. -/
structure Field (σ : Type) where
  name : String
  /-- Whether the field has been read. -/
  isSet : σ → Bool
  /-- Whether the field may be left out. -/
  isOptional : Bool := true
  read : σ → Reader σ

/-- What is read, put into its place. -/
def Field.place {α σ : Type} (set : σ → α → σ) (reader : Reader α) (s : σ) : Reader σ :=
  fun ts => (reader ts).map fun r => (set s r.1, r.2)

/-- A type with named fields. -/
structure Record (σ : Type) where
  /-- The name of the type in messages. -/
  name : String
  fields : List (Field σ)
  empty : σ

namespace Record

variable {σ : Type}

/-- The member of an object: a field that is known and new. -/
def member (r : Record σ) (key : String) (s : σ) : Reader σ := fun ts =>
  match r.fields.find? fun f => f.name == key with
  | none => .error (.unknownField key (r.fields.map Field.name))
  | some f =>
      if f.isSet s then .error (.duplicateField key)
      else do
        let ((), ts) ← colon ts
        f.read s ts

/-- A field that must not be left out. -/
def missing? (r : Record σ) (s : σ) : Option String :=
  (r.fields.find? fun f => !f.isOptional && !f.isSet s).map Field.name

/-- Fields in order, of which `index` have been read.  Optional ones may be left out at the
end. -/
def positional (r : Record σ) (index : Nat) (s : σ) : List (Field σ) → Reader σ
  | [], ts => do
      let ((), ts) ← endItems ts
      .ok (s, ts)
  | f :: fs, ts => do
      match ← nextItem (index == 0) ts with
      | (true, ts) =>
          let (s, ts) ← f.read s ts
          positional r (index + 1) s fs ts
      | (false, ts) =>
          if f.isOptional then positional r index s fs ts
          else .error (.invalidLength (r.fields.length - (fs.length + 1))
            (r.name ++ " with " ++ toString r.fields.length ++ " elements"))

/-- A record in either form; `depth` arrays and objects may be open at once. -/
def read (r : Nat → Record σ) : Nat → Reader σ
  | 0, .leftBrace :: _ | 0, .leftBracket :: _ => .error .recursionLimit
  | depth + 1, .leftBrace :: ts => do
      let r := r depth
      let (s, ts) ← object r.member r.empty ts
      match r.missing? s with
      | some name => .error (.missingField name)
      | none => .ok (s, ts)
  | depth + 1, .leftBracket :: ts =>
      let r := r depth
      positional r 0 r.empty r.fields ts
  | depth, ts => Reader.mismatch (r depth).name ts

end Record

/-- An array whose items are read with less depth. -/
def listOf {α : Type} (item : Nat → Reader α) : Nat → Reader (List α)
  | 0, .leftBracket :: _ => .error .recursionLimit
  | depth + 1, .leftBracket :: ts => sequence (item depth) ts
  | _, ts => Reader.mismatch "a sequence" ts

/-! ## cases -/

namespace CaseKind

/-- The names of the forms in documents. -/
def documentNames : List String := ["with", "when", "otherwise"]

/-- The form of the given name. -/
def ofDocument (name : String) : Except ReadError CaseKind :=
  if name = "with" then .ok withPatterns
  else if name = "when" then .ok whenHolds
  else if name = "otherwise" then .ok otherwise
  else .error (.unknownVariant name documentNames)

/-- The rest of a form in an object, after the brace: its name, null and the closing brace. -/
def readObject : Reader CaseKind := fun ts => do
  match ← nextKey true ts with
  | (none, _) => .error .expectedValue
  | (some name, ts) =>
      let kind ← ofDocument name
      let ((), ts) ← colon ts
      match ts with
      | .null :: .rightBrace :: ts => .ok (kind, ts)
      | [.null] => .error (.unfinished .object)
      | .null :: _ => .error .expectedValue
      | ts => Reader.mismatch "unit" ts

/-- The form of a case. -/
def read : Nat → Reader CaseKind
  | _, .string name :: ts => (ofDocument name).map fun kind => (kind, ts)
  | 0, .leftBrace :: _ => .error .recursionLimit
  | _, .leftBrace :: ts => readObject ts
  | _, .invalid true e :: _ => .error e
  | _, [] => .error (.unfinished .value)
  | _, _ => .error .expectedValue

end CaseKind

namespace CaseSpec

/-- The fields of a case as far as they have been read. -/
structure Partial where
  kind : Option CaseKind := none
  id : Option (Option String) := none
  pattern : Option Json := none
  patterns : Option (List Json) := none
  guard : Option Json := none
  predicate : Option Json := none
  result : Option Json := none

/-- The fields of a case. -/
def record (depth : Nat) : Record Partial where
  name := "struct CaseSpec"
  empty := {}
  fields := [
    { name := "kind", isOptional := false, isSet := (·.kind.isSome)
      read := Field.place (fun s a => { s with kind := some a }) (CaseKind.read depth) },
    { name := "id", isSet := (·.id.isSome)
      read := Field.place (fun s a => { s with id := some a }) optionalString },
    { name := "pattern", isSet := (·.pattern.isSome)
      read := Field.place (fun s a => { s with pattern := some a }) (value depth) },
    { name := "patterns", isSet := (·.patterns.isSome)
      read := Field.place (fun s a => { s with patterns := some a }) (listOf value depth) },
    { name := "guard", isSet := (·.guard.isSome)
      read := Field.place (fun s a => { s with guard := some a }) (value depth) },
    { name := "predicate", isSet := (·.predicate.isSome)
      read := Field.place (fun s a => { s with predicate := some a }) (value depth) },
    { name := "then", isSet := (·.result.isSome)
      read := Field.place (fun s a => { s with result := some a }) (value depth) }]

/-- The case, once it has a form. -/
def ofPartial? (p : Partial) : Option CaseSpec :=
  p.kind.map fun kind =>
    { kind, id := p.id.getD none, pattern := p.pattern, patterns := p.patterns.getD []
      guard := p.guard, predicate := p.predicate, result := p.result }

/-- A case; a reader of its record does not end without a form. -/
def read (depth : Nat) : Reader CaseSpec := fun ts => do
  let (p, ts) ← Record.read record depth ts
  match ofPartial? p with
  | some spec => .ok (spec, ts)
  | none => .error (.missingField "kind")

end CaseSpec

/-! ## documents -/

namespace CaseDocument

/-- The fields of a document as far as they have been read. -/
structure Partial where
  subject : Option Json := none
  exhaustive : Option Bool := none
  strictSelections : Option Bool := none
  cases : Option (List CaseSpec) := none

/-- The fields of a document. -/
def record (depth : Nat) : Record Partial where
  name := "struct CaseDocument"
  empty := {}
  fields := [
    { name := "subject", isSet := (·.subject.isSome)
      read := Field.place (fun s a => { s with subject := some a }) (value depth) },
    { name := "exhaustive", isSet := (·.exhaustive.isSome)
      read := Field.place (fun s a => { s with exhaustive := some a }) boolean },
    { name := "strict_selections", isSet := (·.strictSelections.isSome)
      read := Field.place (fun s a => { s with strictSelections := some a }) boolean },
    { name := "cases", isOptional := false, isSet := (·.cases.isSome)
      read := Field.place (fun s a => { s with cases := some a })
        (listOf CaseSpec.read depth) }]

/-- The document, once it has cases. -/
def ofPartial? (p : Partial) : Option CaseDocument :=
  p.cases.map fun cases =>
    { subject := p.subject, exhaustive := p.exhaustive.getD false
      strictSelections := p.strictSelections.getD false, cases }

/-- A document; a reader of its record does not end without cases. -/
def reader (depth : Nat) : Reader CaseDocument := fun ts => do
  let (p, ts) ← Record.read record depth ts
  match ofPartial? p with
  | some document => .ok (document, ts)
  | none => .error (.missingField "cases")

/-- The document of a text. -/
def ofText (text : String) : Except ReadError CaseDocument :=
  readWith (reader nestingLimit) text

end CaseDocument

end Casebook
