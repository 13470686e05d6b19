import RegexExplainer.CommandLine.Execute

/- The command: reads what it needs, runs, and prints. -/
namespace RegexExplainer

/-- Bytes that are piped in. A terminal gives none. -/
def pipedInput : IO (List UInt8) := do
  let stdin ← IO.getStdin
  if ← stdin.isTty then return []
  let mut bytes : List (List UInt8) := []
  let mut more := true
  while more do
    let chunk ← stdin.read 65536
    bytes := chunk.toList :: bytes
    more := !chunk.isEmpty
  return bytes.reverse.flatten

def fileBytes (path : Text) : IO (Option (List UInt8)) := do
  try return some (← IO.FS.readBinFile (String.ofList path)).toList
  catch _ => return none

/-- Reads the one file that the arguments name, or else the input, and completes. -/
def runCommand (args : List Text) (terminal : Bool) : IO Completion := do
  match Config.parse args with
  | .ok ⟨_, some path, _, _⟩ =>
    let bytes ← fileBytes path
    return execute ⟨args, fun _ => bytes, [], terminal⟩
  | .ok ⟨_, none, _, _⟩ => return execute ⟨args, fun _ => none, ← pipedInput, terminal⟩
  | .error _ => return execute ⟨args, fun _ => none, [], terminal⟩

/-- Output and errors go to their streams, and the exit code is the answer. -/
def command (args : List String) : IO UInt32 := do
  let stdout ← IO.getStdout
  let done ← runCommand ([] :: args.map String.toList) (← stdout.isTty)
  stdout.putStr (String.ofList done.output)
  stdout.flush
  (← IO.getStderr).putStr (String.ofList done.errors)
  return done.exitCode.toUInt32

end RegexExplainer

def main (args : List String) : IO UInt32 := RegexExplainer.command args
