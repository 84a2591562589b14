import ServiceCall.Connector

/-!
# Google Docs

The interface of a text editor, authorized by a service account. Edits are sent as a batch of one.
-/

namespace ServiceCall.Catalog.GoogleDocs

def scope : String := "https://www.googleapis.com/auth/documents"

def rootPath : List Piece := []

def documentPath : List Piece := [.text "/", .segment "document_id"]

def editPath : List Piece := documentPath ++ [.text ":batchUpdate"]

def createBody : List Part := Part.copies ["title"]

/-- Puts the text at the end of the document. -/
def appendBody : List Part :=
  [.single "requests"
    [.object "insertText" [.object "endOfSegmentLocation" [], .text "text" "text" ""]]]

/-- Replaces every match. Without a text to put in its place a match is deleted; a blank one is put
there as it is. -/
def replaceBody : List Part :=
  [.single "requests"
    [.object "replaceAllText"
      [.object "containsText" [.text "find_text" "text" "", .flag "match_case" "matchCase"],
        .verbatim "replace_text" "replaceText"]]]

def operations : Operations := .ofList [
  ("get_document", (Operation.plain .get documentPath).needs ["document_id"]),
  ("create_document", ((Operation.plain .post rootPath).needs ["title"]).withBody createBody),
  ("append_text",
    ((Operation.plain .post editPath).needs ["document_id", "text"]).withBody appendBody),
  ("replace_text",
    ((Operation.plain .post editPath).needs ["document_id", "find_text"]).withBody replaceBody)]

def connector : Connector where
  name := "google_docs"
  service := "Google Docs"
  operations
  credentialFields := ["service_account_json"]
  base := .fixed [.text "https://docs.googleapis.com/v1/documents"]
  credentials := .serviceAccount "service_account_json" [scope] "subject"
  handling := { Handling.ofService "Google Docs" with parse? := some ErrorBody.nested? }

end ServiceCall.Catalog.GoogleDocs
