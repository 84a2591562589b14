import ServiceCall.Connector
import ServiceCall.Json.Printer

/-!
# GitLab

The interface of a source code host, the public one or one named by `base_url`. Projects are given
by number or by path; the slashes of a path are encoded, so that it fills one segment.
-/

namespace ServiceCall.Catalog.GitLab

def projectPath : List Piece := [.text "/projects/", .segment "project_id"]

def issuesPath : List Piece := projectPath ++ [.text "/issues"]

def issuePath : List Piece := issuesPath ++ [.text "/", .segment "issue_iid"]

def notesPath : List Piece := issuePath ++ [.text "/notes"]

def mergeRequestsPath : List Piece := projectPath ++ [.text "/merge_requests"]

/-- What a list of issues can be narrowed by. -/
def issueFilters : List String :=
  ["state", "labels", "milestone", "search", "assignee_id", "per_page", "page"]

def createIssueBody : List Part :=
  Part.copies ["title", "description", "labels", "assignee_ids", "milestone_id", "due_date",
    "confidential"]

def updateIssueBody : List Part :=
  Part.copies ["title", "description", "labels", "add_labels", "remove_labels", "assignee_ids",
    "milestone_id", "state_event", "due_date"]

def noteBody : List Part := Part.copies ["body", "internal"]

def mergeRequestBody : List Part :=
  Part.copies ["source_branch", "target_branch", "title", "description", "labels", "assignee_id",
    "remove_source_branch", "squash"]

def operations : Operations := .ofList [
  ("get_project", (Operation.plain .get projectPath).needs ["project_id"]),
  ("list_issues",
    ((Operation.plain .get issuesPath).needs ["project_id"]).withQuery issueFilters),
  ("get_issue", (Operation.plain .get issuePath).needs ["project_id", "issue_iid"]),
  ("create_issue",
    ((Operation.plain .post issuesPath).needs ["project_id", "title"]).withBody createIssueBody),
  ("update_issue",
    ((Operation.plain .put issuePath).needs ["project_id", "issue_iid"]).withBody updateIssueBody),
  ("add_issue_note",
    ((Operation.plain .post notesPath).needs ["project_id", "issue_iid", "body"]).withBody
      noteBody),
  ("create_merge_request",
    ((Operation.plain .post mergeRequestsPath).needs
      ["project_id", "source_branch", "target_branch", "title"]).withBody mergeRequestBody)]

/-! ## Messages in the bodies of errors -/

/-- The strings of a list. -/
def strings (items : List Json) : List String := items.filterMap Json.string?

/-- What is wrong with one field. -/
def fieldText (field : String) : Json → String
  | .arr items => field ++ " " ++ String.intercalate ", " (strings items)
  | v => field ++ " " ++ v.compact

/-- The text of a message: a string, faults by field, or a list of strings. -/
def messageText? : Json → Option String
  | .str s => some s
  | .obj [] => none
  | .obj fields => some (String.intercalate "; " (fields.map fun f ↦ fieldText f.1 f.2))
  | .arr items =>
    match strings items with
    | [] => none
    | ss => some (String.intercalate "; " ss)
  | _ => none

def errorText? (_status : UInt16) (data : Json) : Option String :=
  ((data.field? "message").bind messageText?).or
    (ErrorBody.textAtFirst? data "error_description" "error")

def connector : Connector where
  name := "gitlab"
  service := "GitLab"
  operations
  credentialFields := ["private_token"]
  base := .named "base_url" "https://gitlab.com" "/api/v4"
  credentials := .bearer "private_token"
  handling := { Handling.ofService "GitLab" with parse? := some errorText? }

end ServiceCall.Catalog.GitLab
