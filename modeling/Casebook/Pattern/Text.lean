import Casebook.Pattern.Basic
import Casebook.Value.Text

/-!
# Casebook.Pattern.Text

How patterns are shown in diagnostics: each constructor by name, with its parts.
-/

namespace Casebook

/-- A kind as a constructor. -/
def Kind.inspect : Kind → String
  | undefined => "Undefined"
  | null => "Null"
  | boolean => "Boolean"
  | number => "Number"
  | string => "String"
  | array => "Array"
  | object => "Object"

/-- A selection key as a constructor. -/
def SelectionKey.inspect : SelectionKey → String
  | anonymous => "Anonymous"
  | named name => "Named(" ++ Text.quoted name ++ ")"

namespace Pattern

/-- A selection with the text of its inner pattern. -/
def inspectSelect (key : SelectionKey) (inner : String) : String :=
  "Select \x7b key: " ++ key.inspect ++ ", pattern: " ++ inner ++ " \x7d"

mutual

/-- The text of a pattern in diagnostics. -/
def inspect : Pattern → String
  | literal v => "Literal(" ++ v.inspect ++ ")"
  | wildcard => "Wildcard"
  | select key none => inspectSelect key "None"
  | select key (some p) => inspectSelect key ("Some(" ++ p.inspect ++ ")")
  | object fields => "Object([" ++ Value.commaSeparated (inspectFields fields) ++ "])"
  | tuple ps => "Array(Tuple([" ++ Value.commaSeparated (inspectParts ps) ++ "]))"
  | each p => "Array(Each(" ++ p.inspect ++ "))"
  | not p => "Not(" ++ p.inspect ++ ")"
  | all ps => "And([" ++ Value.commaSeparated (inspectParts ps) ++ "])"
  | any ps => "Or([" ++ Value.commaSeparated (inspectParts ps) ++ "])"
  | optional p => "Optional(" ++ p.inspect ++ ")"
  | kind k => "Kind(" ++ k.inspect ++ ")"
  | when _ => "When(Predicate(..))"

def inspectFields : List (String × Pattern) → List String
  | [] => []
  | (name, p) :: fields =>
      ("(" ++ Text.quoted name ++ ", " ++ p.inspect ++ ")") :: inspectFields fields

def inspectParts : List Pattern → List String
  | [] => []
  | p :: ps => p.inspect :: inspectParts ps

end

end Pattern

end Casebook
