import PlatformBridge.Simulator.Program

/-!
The simulator's command line: reads the documents that the arguments name and the log filter of
the environment, and prints the report.
-/

namespace PlatformBridge.Simulator

def findDocument (path : String) : IO Document := do
  try
    return .bytes (← IO.FS.readBinFile path)
  catch
    | .noFileOrDirectory .. => return .missing
    | .inappropriateType _ 21 _ => return .folder
    | .inappropriateType .. => return .notFolder
    | .permissionDenied .. => return .unreadable "Permission denied (os error 13)"
    | .invalidArgument _ _ "name too long" => return .nameTooLong
    | error => return .unreadable (toString error)

/-- The document under a path, if a path is given. -/
def findGiven : Option String → IO (List (String × Document))
  | none => return []
  | some path => return [(path, ← findDocument path)]

/-- The documents that arguments name. -/
def findNamed (arguments : List String) : IO (List (String × Document)) :=
  match Arguments.parse arguments with
  | .ok (.simulate a) => return (← findGiven a.config) ++ (← findGiven a.profile)
  | _ => return []

end PlatformBridge.Simulator

open PlatformBridge.Simulator in
def main (arguments : List String) : IO UInt32 := do
  let documents ← findNamed arguments
  let environment ← IO.getEnv "RUST_LOG"
  let report := program arguments (fun path => (documents.lookup path).getD .missing) environment
  for line in report.output do
    IO.println line
  IO.eprint report.complaint
  return report.exit.code
