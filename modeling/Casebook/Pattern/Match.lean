import Casebook.Pattern.Keys

/-!
# Casebook.Pattern.Match

Matching a value against a pattern.  A walk over the pattern carries the selections recorded
so far.  Where work may have to be thrown away (a negation, each part of an alternative, each
element of an array) it starts from empty selections, which are merged only on success.

* `Pattern.matchInto` — matching on top of earlier selections, which a failure may leave
  partly written;
* `Pattern.match?` — matching by itself;
* `Pattern.matches` — the decision alone.
-/

namespace Casebook

namespace Selections

/-- Every key of a pattern that saw nothing reads as `undefined`. -/
def recordUndefined (s : Selections) (keys : List SelectionKey) : Selections :=
  keys.foldl (fun s key => s.record key .undefined) s

/-- Every key of an alternative that the matching `branch` does not hold reads as
`undefined`. -/
def recordMissing (s branch : Selections) (keys : List SelectionKey) : Selections :=
  keys.foldl (fun s key => if branch.contains key then s else s.record key .undefined) s

/-- What one element contributes to the column of a key. -/
def cell (row : Selections) (key : SelectionKey) : Capture := (row.get? key).getD .undefined

/-- For every key, the captures of the elements one below the other. -/
def recordColumns (s : Selections) (rows : List Selections) (keys : List SelectionKey) :
    Selections :=
  keys.foldl (fun s key => s.record key (.column (rows.map fun row => row.cell key))) s

/-- The selections of a result, if it is a success. -/
def ofResult? (result : Bool × Selections) : Option Selections :=
  if result.1 then some result.2 else none

end Selections

namespace Pattern

mutual

/-- Match and record on top of `out`.  After a failure the selections may hold some of the
captures made before it. -/
def matchInto : Pattern → Value → Selections → Bool × Selections
  | literal w, v, out => (w.strictEquals v, out)
  | wildcard, _, out => (true, out)
  | kind k, v, out => (v.kind == k, out)
  | when test, v, out => (test v, out)
  | select key none, v, out => (true, out.record key (.part v))
  | select key (some p), v, out =>
      match matchInto p v out with
      | (true, out) => (true, out.record key (.part v))
      | (false, out) => (false, out)
  | object fields, v, out =>
      match v.props? with
      | some props => matchFields fields props out
      | none => (false, out)
  | tuple ps, v, out =>
      match v.items? with
      | some items => if items.length = ps.length then matchItems ps items out else (false, out)
      | none => (false, out)
  | each p, v, out =>
      match v.items? with
      | some items =>
          match items.mapM fun item => Selections.ofResult? (matchInto p item ∅) with
          | some rows => (true, out.recordColumns rows p.keys)
          | none => (false, out)
      | none => (false, out)
  | not p, v, out => (!(matchInto p v ∅).1, out)
  | all ps, v, out => matchAll ps v out
  | any ps, v, out =>
      match matchAny ps v with
      | some branch => (true, (out.recordMissing branch (ps.flatMap keys)).merge branch)
      | none => (false, out)
  | optional p, v, out =>
      if v.isUndefined then (true, out.recordUndefined p.keys) else matchInto p v out

/-- Every listed property matches.  An absent one is accepted only by an optional pattern,
which then sees `undefined`. -/
def matchFields : List (String × Pattern) → Props Value → Selections → Bool × Selections
  | [], _, out => (true, out)
  | (key, p) :: fields, props, out =>
      let result := match props.lookup key with
        | some v => matchInto p v out
        | none => if p.isOptional then matchInto p .undefined out else (false, out)
      match result with
      | (true, out) => matchFields fields props out
      | (false, out) => (false, out)

/-- Every item matches the pattern at its place. -/
def matchItems : List Pattern → List Value → Selections → Bool × Selections
  | p :: ps, v :: vs, out =>
      match matchInto p v out with
      | (true, out) => matchItems ps vs out
      | (false, out) => (false, out)
  | _, _, out => (true, out)

/-- One value matches every pattern. -/
def matchAll : List Pattern → Value → Selections → Bool × Selections
  | [], _, out => (true, out)
  | p :: ps, v, out =>
      match matchInto p v out with
      | (true, out) => matchAll ps v out
      | (false, out) => (false, out)

/-- The captures of the first pattern that matches. -/
def matchAny : List Pattern → Value → Option Selections
  | [], _ => none
  | p :: ps, v =>
      match Selections.ofResult? (matchInto p v ∅) with
      | some branch => some branch
      | none => matchAny ps v

end

/-- The captures of a match, none if the value does not match. -/
def match? (p : Pattern) (v : Value) : Option Selections :=
  Selections.ofResult? (p.matchInto v ∅)

/-- Whether a value matches. -/
def «matches» (p : Pattern) (v : Value) : Bool := (p.matchInto v ∅).1

end Pattern

end Casebook
