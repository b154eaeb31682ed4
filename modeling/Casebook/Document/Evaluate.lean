import Casebook.Arena
import Casebook.Case.Draft
import Casebook.Document.Reader

/-!
# Casebook.Document.Evaluate

What a document comes to.  Its cases are registered in order, then its subject is set.  A
case without a result of its own yields what it captures.

* `CaseSpec.toCase` — the case that is written;
* `CaseDocument.toState` — the state that is described;
* `CaseDocument.evaluate` — the result, null where no case takes the subject;
* `CaseDocument.ofContents` — a document from what reading a file came to.
-/

namespace Casebook

namespace CaseSpec

/-- The decoded patterns, in order. -/
def decode (id : CaseId) : List Json → Except DocumentError (List Pattern)
  | [] => .ok []
  | j :: js =>
      match Pattern.ofJson j with
      | .error fault => .error (.invalidPattern id.label fault)
      | .ok p => (decode id js).map (p :: ·)

/-- What a case yields by itself: the JSON form of what it captures. -/
def captured : Handler Json := fun s subject => (s.argument subject).toValue.toJson

/-- The case that is written, under the given key.  A guard holds of the subjects that its
pattern matches. -/
def toCase (spec : CaseSpec) (key : String) : Except DocumentError (Case Json) := do
  let id : CaseId := ⟨spec.kind, key⟩
  let patterns ← decode id (spec.pattern.toList ++ spec.patterns)
  let guards ← decode id (spec.guard.toList ++ spec.predicate.toList)
  let draft : CaseDraft Json := {
    id, patterns
    guards := guards.map fun p => p.matches
    handler := if spec.result.isNone then some captured else none
    constant := spec.result }
  draft.build.mapError .mismatch

end CaseSpec

namespace CaseDocument

def config (d : CaseDocument) : Config :=
  { exhaustive := d.exhaustive, strictSelections := d.strictSelections }

/-- The key of the case at a position. -/
def key (spec : CaseSpec) (position : Nat) : String := spec.id.getD (toString position)

/-- Register written cases, the first of which stands at `position`. -/
def registerFrom (position : Nat) (s : EvaluationState Json) :
    List CaseSpec → Except DocumentError (EvaluationState Json)
  | [] => .ok s
  | spec :: specs => do
      let c ← spec.toCase (key spec position)
      match s.register c with
      | (.error e, _) => .error (.mismatch e)
      | (.ok _, s) => registerFrom (position + 1) s specs

/-- The state that a document describes. -/
def toState (d : CaseDocument) : Except DocumentError (EvaluationState Json) := do
  let s ← registerFrom 0 (.new d.config) d.cases
  match d.subject with
  | none => .ok s
  | some j =>
      match s.setSubject (.ofJson j) with
      | (.error e, _) => .error (.mismatch e)
      | (.ok (), s) => .ok s

/-- The result of a state, null if there is none. -/
def output (s : EvaluationState Json) : Except DocumentError Json :=
  match s.evaluate with
  | .error e => .error (.mismatch e)
  | .ok result => .ok (result.getD .null)

/-- The result of a document. -/
def evaluate (d : CaseDocument) : Except DocumentError Json := do
  output (← d.toState)

/-- The document of a text. -/
def parse (text : String) : Except DocumentError CaseDocument :=
  (ofText text).mapError .malformed

/-- The document of a file, given what reading the file came to: its bytes, or the reason why
there are none. -/
def ofContents (path : String) : Except String ByteArray → Except DocumentError CaseDocument
  | .error reason => .error (.unreadable path reason)
  | .ok bytes =>
      match String.fromUTF8? bytes with
      | some text => parse text
      | none => .error (.unreadable path "stream did not contain valid UTF-8")

end CaseDocument

end Casebook
