import Casebook.CommandLine

/-!
# Casebook.Main

The program: reads the input that the command line names, and prints the report.
-/

namespace Casebook

/-- A reason with the system's number for it, which may be given as its negative. -/
def reason (text : String) (code : UInt32) : String :=
  text.capitalize ++ " (os error " ++ toString (min code (0 - code)) ++ ")"

/-- Why a file could not be read. -/
def reasonOf : IO.Error → String
  | .noFileOrDirectory _ code _ => reason "no such file or directory" code
  | .permissionDenied _ code _ => reason "permission denied" code
  | .inappropriateType _ code details | .invalidArgument _ code details
  | .resourceExhausted _ code details | .otherError code details => reason details code
  | e => toString e

/-- Every byte of a stream. -/
partial def readAll (stream : IO.FS.Stream) (read : ByteArray) : IO ByteArray := do
  let chunk ← stream.read 65536
  if chunk.isEmpty then return read else readAll stream (read ++ chunk)

/-- The contents of an input, or the reason why there are none. -/
def contentsOf (input : Input) : IO (Except String ByteArray) := do
  try
    match input with
    | .standard => return .ok (← readAll (← IO.getStdin) .empty)
    | .file path => return .ok (← IO.FS.readBinFile path)
  catch e => return .error (reasonOf e)

end Casebook

open Casebook in
def main (args : List String) : IO UInt32 := do
  let invocation := Invocation.ofArgs args
  let contents ← match invocation.input? with
    | some input => contentsOf input
    | none => pure (.error "")
  let report := invocation.report contents
  IO.print report.stdout
  IO.eprint report.stderr
  return report.code.toUInt32
