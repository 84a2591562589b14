import ServiceCall.World

/-!
# Trees of files

The files of a world, given by their paths. A folder is there if something is below it, or if it is
given as one. A path is followed step by step: it leads through folders only, two dots lead back out
of a folder, and a slash at its end asks for a folder.
-/

namespace ServiceCall

/-- Files and folders, each under the steps that lead to it from the root. -/
structure Tree where
  files : List (List String × String)
  folders : List (List String)

namespace Tree

/-- What stands at the end of the steps. -/
def found (t : Tree) (place : List String) : Found :=
  match t.files.lookup place with
  | some text => .file text
  | none =>
    if place = [] || t.folders.any (place.isPrefixOf ·) || t.files.any (place.isPrefixOf ·.1) then
      .folder
    else .nothing

/-- Follows further steps from a place. -/
def follow (t : Tree) : (place steps : List String) → Found
  | place, [] => t.found place
  | place, step :: steps =>
    if t.found place ≠ .folder then .nothing
    else if step = "" || step = "." then t.follow place steps
    else if step = ".." then t.follow place.dropLast steps
    else t.follow (place ++ [step]) steps

def steps (path : String) : List String := (List.splitOn '/' path.toList).map String.ofList

/-- What stands under a path, as seen from a folder. -/
def look (t : Tree) (workFolder path : String) : Found :=
  if path = "" then .nothing
  else if isAbsolute path then t.follow [] (steps path)
  else t.follow [] (steps workFolder ++ steps path)

/-- The tree of the files and folders under the given paths, which start at the root. -/
def ofPaths (files : List (String × String)) (folders : List String) : Tree where
  files := files.map fun f ↦ ((steps f.1).drop 1, f.2)
  folders := folders.map fun f ↦ (steps f).drop 1

example : (ofPaths [("/a/b/c", "x")] []).look "/a/b" "../b//c" = .file "x" := by decide +kernel
example : (ofPaths [("/a/b/c", "x")] []).look "/a/b" "c/" = .nothing := by decide +kernel

end Tree

end ServiceCall
