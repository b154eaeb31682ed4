import Casebook.Error
import Casebook.Pattern.Basic

/-!
# Casebook.Pattern.Census

The rules of selection, checked before a pattern is used: at most one anonymous capture, and
none beside named ones.  The census counts the captures that one match can make; of the
parts of an alternative only one captures, so they are counted apart.

* `Pattern.census` — the count;
* `Pattern.fault?` — the rule that a pattern breaks;
* `Pattern.duplicates` — names captured more than once by one match, the last one winning.
-/

namespace Casebook

/-- The captures that a match can make. -/
structure Census where
  /-- How many anonymous captures one match can make. -/
  anonymous : Nat := 0
  /-- Every name, in the order of discovery. -/
  named : List String := []
  /-- The names that one match can capture twice. -/
  duplicates : List String := []
deriving DecidableEq

namespace Census

def addDuplicate (c : Census) (name : String) : Census :=
  if name ∈ c.duplicates then c else { c with duplicates := c.duplicates ++ [name] }

/-- One more capture under a name. -/
def addNamed (c : Census) (name : String) : Census :=
  if name ∈ c.named then c.addDuplicate name else { c with named := c.named ++ [name] }

/-- One more capture. -/
def record (c : Census) : SelectionKey → Census
  | .anonymous => { c with anonymous := c.anonymous + 1 }
  | .named name => c.addNamed name

/-- A name that may be there already without being captured twice. -/
def addAlternative (c : Census) (name : String) : Census :=
  if name ∈ c.named then c else { c with named := c.named ++ [name] }

/-- Both parts capture. -/
def together (c part : Census) : Census :=
  let c := { c with anonymous := c.anonymous + part.anonymous }
  part.duplicates.foldl addDuplicate (part.named.foldl addNamed c)

/-- At most one of the parts captures. -/
def either (c part : Census) : Census :=
  let c := { c with anonymous := max c.anonymous part.anonymous }
  part.duplicates.foldl addDuplicate (part.named.foldl addAlternative c)

end Census

namespace Pattern

mutual

/-- The captures that a match of this pattern can make. -/
def census : Pattern → Census
  | select key none => Census.record {} key
  | select key (some p) => (census p).record key
  | object fields => censusFields {} fields
  | tuple ps | all ps => censusTogether {} ps
  | any ps => censusEither {} ps
  | each p | optional p => census p
  | literal _ | wildcard | not _ | kind _ | when _ => {}

def censusFields (total : Census) : List (String × Pattern) → Census
  | [] => total
  | (_, p) :: fields => censusFields (total.together (census p)) fields

def censusTogether (total : Census) : List Pattern → Census
  | [] => total
  | p :: ps => censusTogether (total.together (census p)) ps

def censusEither (total : Census) : List Pattern → Census
  | [] => total
  | p :: ps => censusEither (total.either (census p)) ps

end

/-- The rule of selection that this pattern breaks, if any. -/
def fault? (p : Pattern) : Option MatchError.Cause :=
  let c := p.census
  if 1 < c.anonymous then some .multipleAnonymousSelections
  else if 0 < c.anonymous ∧ c.named ≠ [] then some .mixedSelections
  else none

/-- The names that one match captures more than once. -/
def duplicates (p : Pattern) : List String := p.census.duplicates

/-- The names captured more than once, if no rule is broken. -/
def validate (p : Pattern) : Except MatchError (List String) :=
  match p.fault? with
  | some cause => .error ⟨cause, none⟩
  | none => .ok p.duplicates

end Pattern

end Casebook
