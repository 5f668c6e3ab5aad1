import SqlSkim.CommandLine.Run
import Std.Time.Format

/-!
# `Main` — the program

Reads what a run asks for, and prints what it gives back; what a command line means is settled in
`CommandLine.Run`.

## Contents
- `readFile`, `readInput`, `currentStamp`: the surroundings of the process.
- `main`: the program.
-/

namespace SqlSkim

/-- The error code of the system for a path that names a directory. -/
def isDirectoryCode : UInt32 := 21

/-- The error code of the system for a path that is too long. -/
def nameTooLongCode : UInt32 := 36

/-- Whether an error code is the given one. The system gives some codes with their sign changed. -/
def isCode (expected code : UInt32) : Bool := code = expected || code + expected = 0

/-- What a path names. A path that cannot be followed names nothing. -/
def readFile (path : Text) : IO FileState := do
  try
    return .file (← IO.FS.readBinFile (String.ofList path)).toList
  catch
    | .noFileOrDirectory .. => return .missing
    | .inappropriateType _ code _ =>
      return if isCode isDirectoryCode code then .directory else .missing
    | .invalidArgument name code details =>
      if isCode nameTooLongCode code then return .nameTooLong
      else throw (.invalidArgument name code details)
    | e => throw e

/-- All of a stream, line by line. -/
partial def readLines (stream : IO.FS.Stream) (before : String) : IO String := do
  let line ← stream.getLine
  if line.isEmpty then return before else readLines stream (before ++ line)

/-- The text on standard input. -/
def readInput : IO Text := return (← readLines (← IO.getStdin) "").toList

/-- The local time, to the millisecond. -/
def currentStamp : IO Text := do
  let now ← Std.Time.PlainDateTime.now
  return (toString now).toList.take 23 |>.map fun c =>
    if c = 'T' then ' ' else if c = '.' then ',' else c

end SqlSkim

open SqlSkim in
/-- Runs the program on the words of its command line. -/
def main (arguments : List String) : IO UInt32 := do
  let around : Surroundings IO := {
    file := readFile
    input := readInput
    inputIsTerminal := ← (← IO.getStdin).isTty
    configVariable := (← IO.getEnv "LIGHTSQL_CONFIG").map String.toList
    home := ((← IO.getEnv "HOME").getD "/").toList
    stamp := ← currentStamp }
  let outcome ← run around (arguments.map String.toList)
  IO.print (String.ofList outcome.output)
  IO.eprint (String.ofList outcome.errors)
  if let some e := outcome.failure then IO.eprintln (String.ofList e.message)
  return outcome.exitCode.toUInt32
