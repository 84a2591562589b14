import ServiceCall.CommandLine
import ServiceCall.Http.Network
import ServiceCall.Registry
import ServiceCall.Settings.Search

/-!
# The program

One run of the program, as a function of the world that it finds. The environment is completed
first, then the command line is read, then the settings, and only then is the command carried out.
All that is given for a call is read before anything is sent.

A run that fails prints nothing. A call whose envelope tells of an error has not failed in this
sense: the envelope is printed, and the exit code tells the difference.
-/

namespace ServiceCall.Program

/-! ## Reports -/

/-- How a run ends. -/
inductive Report where
  | printed (output : String)
  /-- With an envelope that tells of an error. -/
  | unsuccessful (output : String)
  | failed (cause : Failure)
  /-- With a command line that cannot be understood. -/
  | misused
  deriving DecidableEq

namespace Report

def code : Report → UInt32
  | printed _ => 0
  | unsuccessful _ => 1
  | failed _ | misused => 2

def output : Report → String
  | printed output | unsuccessful output => output
  | failed _ | misused => ""

/-- The report on a call that was made. -/
def ofEnvelope (e : Envelope) : Report :=
  let text := e.toJson.indented ++ "\n"
  if e.isError then unsuccessful text else printed text

end Report

/-- Each on a line of its own. -/
def printLines (lines : List String) : String := String.join (lines.map (· ++ "\n"))

/-! ## Calls -/

def readJson (text : String) : Except Failure Json :=
  (Json.read text).mapError fun f ↦ .json (f.message text)

/-- Reads arguments; a blank text gives none. -/
def readArgs (text : String) : Except Failure Args :=
  if Text.isBlank text then .ok .empty
  else do (Args.ofJson (← readJson text)).mapError .ofArgsKind

/-- The text of the arguments: as given on the command line, or the input. -/
def argsText (w : World) : Option String → Except Failure String
  | some text => .ok text
  | none => w.input.mapError .io

/-- Reads all that is given for a call. The context is for the caller alone, but it has to be in
order. -/
def callArgs (w : World) (args context : Option String) (dryRun : Bool) : Except Failure Args := do
  let args ← readArgs (← argsText w args)
  match context with
  | some text => discard (readJson text)
  | none => pure ()
  return if dryRun then args.insert "dry_run" (.bool true) else args

/-! ## Runs -/

/-- Carries out a command. -/
def perform {σ : Type} (w : World) (r : Registry) (client : Http.Client σ) (now : Int) :
    Command → StateM σ Report
  | .list => pure (.printed (printLines r.names))
  | .operations connector =>
    match r.get connector with
    | .ok c => pure (.printed (printLines c.operationNames))
    | .error cause => pure (.failed cause)
  | .call connector args context dryRun =>
    match callArgs w args context dryRun with
    | .ok args => .ofEnvelope <$> r.invoke client w.environment.get? now connector args
    | .error cause => pure (.failed cause)

/-- The settings that apply, provided that requests can be sent under the name that they give. -/
def settings (w : World) (named : Option String) : Except Failure Settings := do
  let s ← Settings.search w named
  if Http.Network.isValue s.userAgent then return s
  else .error (.http Http.Network.unbuildable.message)

def versionText : String := "relaycall 0.1.0\n"

def helpText : String := printLines [
  "Dispatch and dry-run calls of service operations",
  "",
  "Usage: relaycall [--config <FILE>] <COMMAND>",
  "",
  "Commands:",
  "  list                    List the connectors",
  "  operations <CONNECTOR>  List the operations of a connector",
  "  call <CONNECTOR>        Run one operation and print its envelope",
  "  help [COMMAND]          Print this text",
  "",
  "Options of call:",
  "  --args <JSON>           Arguments as an object; read from the input if left out",
  "  --context <JSON>        Context of the caller",
  "  --dry-run               Show the request without sending it"]

/-- Runs the program in a world over the given transport. -/
def run {σ : Type} (w : World) (transport : Http.Transport σ) (now : Int) : StateM σ Report :=
  match CommandLine.read? w.arguments with
  | none => pure .misused
  | some .help => pure (.printed helpText)
  | some .version => pure (.printed versionText)
  | some (.run named command) =>
    match settings w named with
    | .ok s =>
      perform w (.ofCatalog s) (Http.Network.client (some s.userAgent) transport) now command
    | .error cause => pure (.failed cause)

/-! ## What a run looks at -/

/-- The paths that a run looks at. -/
def paths (w : World) : List String :=
  World.envFiles w.workFolder ++
    match CommandLine.read? w.arguments with
    | some (.run named _) => Settings.files w named
    | _ => []

/-- The variables that a run asks for. -/
def variableNames (w : World) : List String :=
  ["HOME", "XDG_CONFIG_HOME"] ++ w.envLines.flatMap EnvFile.Line.names ++
    Catalog.all.flatMap fun c ↦ c.credentialFields.map (Fallback.variableName c.name)

/-- Whether a run reads the input. -/
def readsInput (w : World) : Bool :=
  match CommandLine.read? w.arguments with
  | some (.run _ (.call _ none _ _)) => true
  | _ => false

end ServiceCall.Program
