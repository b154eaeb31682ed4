import Casebook.Document.Evaluate
import Casebook.Json.Printer

/-!
# Casebook.CommandLine

The command line: evaluate a case document and print the result as JSON.

* `Invocation.ofArgs` — what a command line asks for;
* `Invocation.report` — what is printed, given the contents of the input.
-/

namespace Casebook

/-- Where a document is read from. -/
inductive Input where
  | standard
  | file (path : String)
deriving DecidableEq

/-- The name of an input in messages. -/
def Input.name : Input → String
  | standard => "<stdin>"
  | file path => path

/-- What a command line asks for. -/
inductive Invocation where
  | help
  | unknownOption (option : String)
  | unexpectedArgument (argument : String)
  | noInput
  | evaluate (input : Input) (pretty : Bool)
deriving DecidableEq

/-- What a run leaves behind. -/
structure Report where
  code : UInt8
  stdout : String := ""
  stderr : String := ""
deriving DecidableEq

namespace Invocation

/-- Arguments are read from left to right, and the first that is wrong decides.  `-` names
the standard input, and does so also after a file has been named. -/
def ofArgsFrom (pretty : Bool) (input : Option Input) : List String → Invocation
  | [] =>
      match input with
      | some input => evaluate input pretty
      | none => noInput
  | arg :: args =>
      if arg = "-h" ∨ arg = "--help" then help
      else if arg = "--pretty" then ofArgsFrom true input args
      else if arg = "-" then ofArgsFrom pretty (some .standard) args
      else if arg.startsWith "-" then unknownOption arg
      else if input.isNone then ofArgsFrom pretty (some (.file arg)) args
      else unexpectedArgument arg

/-- What the arguments after the program's name ask for. -/
def ofArgs (args : List String) : Invocation := ofArgsFrom false none args

def usage : String :=
  "Usage: shapematch [--pretty] <file.json | ->\n" ++
  "\n" ++
  "Evaluates a case document and prints the result as JSON.\n" ++
  "Reads the document from stdin when the path is `-`.\n" ++
  "\n" ++
  "Environment:\n" ++
  "  RUST_LOG              Enable logging (e.g. shapematch_eval=trace)\n" ++
  "  SHAPEMATCH_LOG_TREE   Render spans as a tree\n"

/-- The input that has to be read. -/
def input? : Invocation → Option Input
  | evaluate input _ => some input
  | _ => none

/-- The text of a JSON value in the chosen layout. -/
def render (pretty : Bool) (j : Json) : String := if pretty then j.pretty else j.compact

/-- What is printed, given what reading the input came to. -/
def report (contents : Except String ByteArray) : Invocation → Report
  | help => { code := 0, stderr := usage }
  | unknownOption option =>
      { code := 1, stderr := "error: unknown option `" ++ option ++ "`\n" ++ usage }
  | unexpectedArgument argument =>
      { code := 1, stderr := "error: unexpected argument `" ++ argument ++ "`\n" }
  | noInput => { code := 1, stderr := usage }
  | evaluate input pretty =>
      match (CaseDocument.ofContents input.name contents).bind CaseDocument.evaluate with
      | .ok j => { code := 0, stdout := render pretty j ++ "\n" }
      | .error e => { code := 1, stderr := "error: " ++ e.message ++ "\n" }

end Invocation

end Casebook
