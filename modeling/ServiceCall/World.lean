import ServiceCall.EnvFile

/-!
# What a run finds

A run of the program finds a command line, an input, an environment and files. The environment that
counts is the one completed by the nearest environment file: the one in the folder that the run
starts in, or else in the innermost of the folders around it.
-/

namespace ServiceCall

/-- What stands under a path. -/
inductive Found where
  | nothing
  | folder
  | file (text : String)
  /-- Something that cannot be read, for the given reason. -/
  | unreadable (why : String)
  deriving DecidableEq

structure World where
  arguments : List String
  /-- The input, or why it cannot be read. -/
  input : Except String String
  /-- The variables as the run finds them. -/
  vars : Table String
  /-- The folder that relative paths start from. -/
  workFolder : String
  /-- The folder that the program is in, if it is known. -/
  programFolder : Option String
  look : String → Found

/-! ## Paths -/

/-- Whether a path starts at the root. -/
def isAbsolute (path : String) : Bool := path.toList.head? = some '/'

/-- A path below a folder. -/
def below (folder name : String) : String :=
  if folder.toList.getLast? = some '/' then folder ++ name else folder ++ "/" ++ name

/-- The folders that a path written backwards is in, innermost first. -/
def foldersAround : List Char → List (List Char)
  | [] => []
  | ['/'] => [['/']]
  | '/' :: rest => rest.reverse :: foldersAround rest
  | _ :: rest => foldersAround rest

/-- The folder that a path is in, as far as the path shows. -/
def folderAround? (path : String) : Option String :=
  (foldersAround path.toList.reverse).head?.map String.ofList

namespace World

/-- Where environment files are looked for. -/
def envFiles (workFolder : String) : List String :=
  (workFolder :: (foldersAround workFolder.toList.reverse).map String.ofList).map (below · ".env")

/-- What stands under the first of the paths that does not lead to a folder. -/
def nearest (look : String → Found) : List String → Found
  | [] => .nothing
  | path :: paths =>
    match look path with
    | .nothing | .folder => nearest look paths
    | found => found

/-- What the nearest environment file says. -/
def envLines (w : World) : List EnvFile.Line :=
  match nearest w.look (envFiles w.workFolder) with
  | .file text => EnvFile.read text
  | _ => []

/-- The environment with what the nearest environment file adds. -/
def environment (w : World) : Table String := EnvFile.load w.vars w.envLines

end World

end ServiceCall
