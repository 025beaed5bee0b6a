import EngineHost.CommandLine.Report

/-!
# The program

Reads the command line, the environment and the configuration file, and prints the answer.
-/

namespace EngineHost.CommandLine

/-- The fault that an error of the system stands for. -/
def faultOf : IO.Error → ReadFault
  | .noFileOrDirectory .. => .notFound
  | .inappropriateType _ 21 _ => .isDirectory
  | .inappropriateType .. => .other "Not a directory (os error 20)"
  | .permissionDenied .. => .other "Permission denied (os error 13)"
  | e => .other (toString e)

def readBytes (path : String) : IO (Except ReadFault Bytes) := do
  try
    let content ← IO.FS.readBinFile path
    return .ok content.toList
  catch e =>
    return .error (faultOf e)

/-- Reads the file that a request names and answers the request. -/
def answer (request : Request) : IO Report := do
  match request with
  | .run { config := some path, .. } =>
    let content ← readBytes path
    return request.report Registry.builtin fun _ => content
  | _ => return request.report Registry.builtin fun _ => .error .notFound

/-- Prints a report and gives its exit code. -/
def Report.print (r : Report) : IO UInt32 := do
  for line in r.output do
    IO.println line
  for line in r.complaint do
    IO.eprintln line
  return r.exitCode

end EngineHost.CommandLine

def main (line : List String) : IO UInt32 := do
  let path ← IO.getEnv "EXVM_CONFIG"
  match EngineHost.CommandLine.Request.ofArguments path line with
  | .error e => e.report.print
  | .ok request => (← EngineHost.CommandLine.answer request).print
