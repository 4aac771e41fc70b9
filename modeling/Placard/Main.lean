import Placard.Run

/-! The command line: one run in the working directory, with the variables of the process. The
payload goes to standard output, what went wrong only into the exit code. -/
namespace Placard.CommandLine

def obstacle (e : IO.Error) : Obstacle :=
  match e with
  | .noFileOrDirectory _ _ _ => .missing
  | .permissionDenied _ _ _ => .denied
  | .inappropriateType _ 20 _ => .notFolder
  | .inappropriateType _ 21 _ => .isFolder
  | .invalidArgument _ 36 _ => .longName
  | e => .other (toString e)

def readFile (path : String) : IO (Except Obstacle ByteArray) := do
  try
    return .ok (← IO.FS.readBinFile path)
  catch e => return .error (obstacle e)

/-- The variables of the process, each ended by a zero byte; those that are no text are passed
over. -/
def variablesOf (bytes : List UInt8) : Variables :=
  (bytes.splitOn 0).filterMap fun entry => do
    let text ← String.fromUTF8? ⟨entry.toArray⟩
    let (name, value) := (text.toList.takeWhile (· ≠ '='), text.toList.dropWhile (· ≠ '='))
    match value with
    | _ :: value => return (String.ofList name, String.ofList value)
    | [] => none

def surroundings : IO (Surroundings IO) := do
  match ← readFile "/proc/self/environ" with
  | .ok bytes => return ⟨readFile, variablesOf bytes.toList⟩
  | .error _ => return ⟨readFile, []⟩

def noNetwork : Network IO := fun _ => return .error "error sending request"

end Placard.CommandLine

open Placard in
def main : IO UInt32 := do
  let finished := Finished.of (← run (← CommandLine.surroundings) CommandLine.noNetwork)
  IO.print finished.printed
  return finished.exitCode.toUInt32
