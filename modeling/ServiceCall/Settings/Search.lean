import ServiceCall.Settings.Reader
import ServiceCall.World

/-!
# Finding settings

Settings come from a file that is named, which then has to be there, or from the first file found
where settings usually are: with the program, in the folder that the run starts in, and with the
user. The usual settings hold if there is none.
-/

namespace ServiceCall.Settings

def fileName : String := "relaycall.toml"

/-- The folder for settings of the user. A relative path is no answer to where settings are. -/
def userFolder? (environment : Table String) : Option String :=
  match (environment.get? "XDG_CONFIG_HOME").filter isAbsolute with
  | some folder => some folder
  | none => ((environment.get? "HOME").filter (· ≠ "")).map (below · ".config")

/-- Where settings usually are. -/
def usualFiles (w : World) : List String :=
  (w.programFolder.map (below · fileName)).toList ++ [below w.workFolder fileName] ++
    ((userFolder? w.environment).map fun folder ↦ below (below folder "relaycall") fileName).toList

/-- Where settings are looked for. -/
def files (w : World) (named : Option String) : List String :=
  match named with
  | some path => [path]
  | none => usualFiles w

/-- Reads settings from what is there; nothing gives none. -/
def ofFound? : Found → Except Failure (Option Settings)
  | .nothing => .ok none
  | .folder => .error (.io "Is a directory (os error 21)")
  | .unreadable why => .error (.io why)
  | .file text => (read text).map some

/-- The settings of the first file that is there. -/
def first? (look : String → Found) : List String → Except Failure (Option Settings)
  | [] => .ok none
  | path :: paths => do
    match ← ofFound? (look path) with
    | some settings => return some settings
    | none => first? look paths

/-- The settings that apply. -/
def search (w : World) (named : Option String) : Except Failure Settings := do
  match ← first? w.look (files w named), named with
  | some settings, _ => return settings
  | none, none => return {}
  | none, some path => .error (.config ("config file " ++ path ++ " does not exist"))

end ServiceCall.Settings
