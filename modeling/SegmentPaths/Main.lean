/-
The program: it runs its command line on the machine that it is started on.
-/
import SegmentPaths.CommandLine.Run

namespace SegmentPaths

/-- The number of a failure of the system; some come with a minus sign. -/
def systemNumber (code : UInt32) : Nat :=
  if code.toNat < 2147483648 then code.toNat else 4294967296 - code.toNat

/-- A failure of the system.  A path through a file leads nowhere, as one through
a missing folder does. -/
def systemFailure (code : UInt32) (details : String) : FileFailure :=
  let number := systemNumber code
  let reason (text : String) := text ++ " (os error " ++ Decimal.natText number ++ ")"
  if number = 2 then .missing (reason "No such file or directory")
  else if number = 20 then .missing (reason "Not a directory")
  else if number = 21 then .unreadable (reason "Is a directory")
  else if number = 13 then .unreadable (reason "Permission denied")
  else .unreadable (reason details)

/-- Why a file could not be read. -/
def fileFailure : IO.Error → FileFailure
  | .noFileOrDirectory _ code details | .inappropriateType _ code details
  | .permissionDenied _ code details | .otherError code details => systemFailure code details
  | error => .unreadable error.toString

/-- Reads a stream to its end. -/
partial def readAll (stream : IO.FS.Stream) (start : ByteArray) : IO ByteArray := do
  let chunk ← stream.read 65536
  if chunk.isEmpty then pure start else readAll stream (start ++ chunk)

/-- The text that an action reads. -/
def readText (action : IO ByteArray) : IO FileText := do
  try pure (FileText.ofBytes (← action))
  catch error => pure (.error (fileFailure error))

/-- The machine that the program runs on. -/
def machine : Host IO where
  file path := readText (IO.FS.readBinFile path)
  input := do readText (readAll (← IO.getStdin) ByteArray.empty)
  setting name := IO.getEnv name

end SegmentPaths

/-- Runs the program. -/
def main (arguments : List String) : IO UInt32 := do
  let outcome ← SegmentPaths.Invocation.run SegmentPaths.machine arguments
  (← IO.getStdout).putStr outcome.output
  (← IO.getStderr).putStr outcome.errors
  pure outcome.code.toUInt32
