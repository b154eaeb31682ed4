import Casebook.Document.PatternCode
import Casebook.Error
import Casebook.Json.Error

/-!
# Casebook.Document.Basic

Case documents: a subject and an ordered list of cases, as they are written in JSON.  A field
that may be left out is told apart from one that is null.
-/

namespace Casebook

/-- A case as written. -/
structure CaseSpec where
  kind : CaseKind
  /-- The key of the case; its position if there is none. -/
  id : Option String := none
  pattern : Option Json := none
  /-- Alternatives after `pattern`. -/
  patterns : List Json := []
  guard : Option Json := none
  predicate : Option Json := none
  /-- The result; what the case captures if there is none. -/
  result : Option Json := none

/-- A subject and the cases to evaluate against it. -/
structure CaseDocument where
  /-- No subject is `undefined`. -/
  subject : Option Json := none
  exhaustive : Bool := false
  strictSelections : Bool := false
  cases : List CaseSpec

/-- Why a document has no result. -/
inductive DocumentError where
  /-- The text cannot be had. -/
  | unreadable (path reason : String)
  | malformed (e : Json.ReadError)
  | invalidPattern (case : String) (fault : PatternFault)
  | mismatch (e : MatchError)

def DocumentError.message : DocumentError → String
  | unreadable path reason => "failed to read `" ++ path ++ "`: " ++ reason
  | malformed e => "malformed case document: " ++ e.message
  | invalidPattern case fault => "invalid pattern in case `" ++ case ++ "`: " ++ fault.message
  | mismatch e => e.message

end Casebook
