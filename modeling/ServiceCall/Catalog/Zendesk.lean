import ServiceCall.Connector

/-!
# Zendesk

The support interface under `https://{subdomain}.zendesk.com/api/v2`. The user name is an address
followed by `/token`, the password is the token itself.
-/

namespace ServiceCall.Catalog.Zendesk

def ticketsPath : List Piece := [.text "/tickets.json"]

def ticketPath : List Piece := [.text "/tickets/", .segment "ticket_id", .text ".json"]

def searchPath : List Piece := [.text "/search.json"]

/-- What all lists can be cut and ordered by. -/
def listing : List String := ["page", "per_page", "sort_by", "sort_order"]

/-- A comment; it says whether it is public only when that is supplied. -/
def comment : Part := .object "comment" [.copy "comment_body" "body", .copy "public" "public"]

def createBody : List Part :=
  [.object "ticket" (Part.copies ["subject"] ++ comment ::
    Part.copies ["priority", "status", "type", "tags", "requester_id", "assignee_id", "group_id",
      "custom_fields"])]

def updateBody : List Part :=
  [.object "ticket" (Part.copies ["subject", "priority", "status", "type", "tags", "assignee_id",
    "group_id", "custom_fields"] ++ [.ifPresent "comment_body" [comment]])]

def commentBody : List Part := [.object "ticket" [comment]]

def operations : Operations := .ofList [
  ("get_ticket", (Operation.plain .get ticketPath).needs ["ticket_id"]),
  ("list_tickets", (Operation.plain .get ticketsPath).sends (listing.map .query)),
  ("create_ticket",
    ((Operation.plain .post ticketsPath).needs ["subject", "comment_body"]).withBody createBody),
  ("update_ticket", ((Operation.plain .put ticketPath).needs ["ticket_id"]).withBody updateBody),
  ("add_comment",
    ((Operation.plain .put ticketPath).needs ["ticket_id", "comment_body"]).withBody commentBody),
  ("search",
    ((Operation.plain .get searchPath).needs ["query"]).sends
      (.query "query" :: listing.map .query))]

/-- The description if there is one, else the error itself, or its message or title. -/
def errorText? (_status : UInt16) (data : Json) : Option String :=
  (ErrorBody.text? data "description").or (ErrorBody.errorText? "message" "title" data)

def connector : Connector where
  name := "zendesk"
  service := "Zendesk"
  operations
  connectionFields := ["subdomain"]
  credentialFields := ["email", "api_token"]
  base := .fixed [.text "https://", .segment "subdomain", .text ".zendesk.com/api/v2"]
  credentials := .basic "email" "/token" "api_token"
  handling :=
    { Handling.ofService "Zendesk" with
      parse? := some errorText?
      requestError := "Failed to connect to Zendesk API" }

end ServiceCall.Catalog.Zendesk
