import ServiceCall.Connector

/-!
# HubSpot

The interface to the objects of a customer database. A contact may carry further properties in an
object of its own; a known field that is supplied wins over them.
-/

namespace ServiceCall.Catalog.HubSpot

def contactsPath : List Piece := [.text "/crm/v3/objects/contacts"]

def contactPath : List Piece := [.text "/crm/v3/objects/contacts/", .segment "contact_id"]

def searchPath : List Piece := [.text "/crm/v3/objects/contacts/search"]

def ticketsPath : List Piece := [.text "/crm/v3/objects/tickets"]

/-- The fields of a contact that have arguments of their own. -/
def contactFields : List String :=
  ["email", "firstname", "lastname", "phone", "company", "website", "lifecyclestage"]

def contactBody : List Part :=
  [.object "properties" (.presentEntries "properties" :: Part.copies contactFields)]

def searchBody : List Part :=
  Part.copies ["query", "after", "sorts"] ++
    [.copyOr "limit" "limit" (.int 10), .copy "return_properties" "properties"]

def ticketBody : List Part :=
  [.object "properties" (Part.copies ["subject", "content"] ++
      [.copy "priority" "hs_ticket_priority", .text "pipeline" "hs_pipeline" "0",
        .text "pipeline_stage" "hs_pipeline_stage" "1"]),
    .copyList "associations" "associations"]

def operations : Operations := .ofList [
  ("get_contact",
    ((Operation.plain .get contactPath).needs ["contact_id"]).withQuery ["properties", "archived"]),
  ("create_contact",
    ((Operation.plain .post contactsPath).needsThat "email" Json.isEmail).withBody contactBody),
  ("update_contact",
    ((Operation.plain .patch contactPath).needs ["contact_id"]).withBody contactBody),
  ("search_contacts", ((Operation.plain .post searchPath).needs ["query"]).withBody searchBody),
  ("create_ticket", ((Operation.plain .post ticketsPath).needs ["subject"]).withBody ticketBody)]

def connector : Connector where
  name := "hubspot"
  service := "HubSpot"
  operations
  credentialFields := ["access_token"]
  base := .fixed [.text "https://api.hubapi.com"]
  credentials := .bearer "access_token"
  handling := { Handling.ofService "HubSpot" with key := some "message" }

end ServiceCall.Catalog.HubSpot
