import ServiceCall.Program

/-!
# The command line program

Gathers the world that a run finds, runs the program in it, and prints the report. No server is
reached from here: a call that is not a dry run ends with its transport failure.
-/

open ServiceCall

namespace ServiceCall.Main

/-- The number by which the system says that a path leads to a folder. -/
def folderCode : UInt32 := 21

/-- What stands under a path. -/
def look (path : String) : IO Found := do
  try
    return .file (← IO.FS.readFile path)
  catch
    | .noFileOrDirectory .. => return .nothing
    | .inappropriateType _ code _ => return if code = folderCode then .folder else .nothing
    | .permissionDenied _ code details =>
      return .unreadable (details ++ " (os error " ++ toString code ++ ")")
    | .userError _ => return .unreadable "stream did not contain valid UTF-8"
    | e => return .unreadable (toString e)

/-- What stands under the given paths. -/
def lookAll (paths : List String) : IO (String → Found) := do
  let found ← paths.mapM fun path ↦ do return (path, ← look path)
  return fun path ↦ (found.lookup path).getD .nothing

def lookUp (names : List String) : IO (Table String) := do
  let found ← names.filterMapM fun name ↦ do return (← IO.getEnv name).map (name, ·)
  return .ofList found

def readInput : IO (Except String String) := do
  try
    return .ok (← (← IO.getStdin).readToEnd)
  catch _ => return .error "stream did not contain valid UTF-8"

/-- The world as far as a run looks at it. -/
def world (arguments : List String) : IO World := do
  let workFolder := toString (← IO.currentDir)
  let programFolder := folderAround? (toString (← IO.appPath))
  let start : World := {
    arguments, workFolder, programFolder, input := .ok "", vars := .empty
    look := ← lookAll (World.envFiles workFolder) }
  let w := { start with vars := ← lookUp (Program.variableNames start) }
  let input ← if Program.readsInput w then readInput else pure w.input
  return { w with input, look := ← lookAll (Program.paths w) }

/-- What is said about a run beside its output. -/
def complaint : Program.Report → String
  | .printed _ | .unsuccessful _ => ""
  | .failed cause => "error: " ++ cause.message ++ "\n"
  | .misused => "error: the command line cannot be understood\n\n" ++ Program.helpText

end ServiceCall.Main

def main (arguments : List String) : IO UInt32 := do
  let w ← ServiceCall.Main.world arguments
  let (report, _) := Program.run w Http.Network.unreachable 0 ()
  IO.print report.output
  IO.eprint (ServiceCall.Main.complaint report)
  return report.code
