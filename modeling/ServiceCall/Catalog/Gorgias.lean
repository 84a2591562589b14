import ServiceCall.Connector

/-!
# Gorgias

The helpdesk interface under `https://{domain}.gorgias.com/api`. A new ticket repeats channel,
origin and subject in its only message.
-/

namespace ServiceCall.Catalog.Gorgias

def ticketsPath : List Piece := [.text "/tickets"]

def ticketPath : List Piece := [.text "/tickets/", .segment "ticket_id"]

def customersPath : List Piece := [.text "/customers"]

/-- An object that holds the address of the customer. -/
def customer (key : String) : Part := .object key [.text "customer_email" "email" ""]

/-- Channel and origin; by default an email that came through the interface. -/
def origin : List Part := [.text "channel" "channel" "email", .text "via" "via" "api"]

def createBody : List Part :=
  [customer "customer",
    .single "messages" (origin ++ [.flag "from_agent" "from_agent", customer "sender",
      .copy "message_body" "body_text", .copy "message_html" "body_html",
      .copy "subject" "subject"])] ++
    origin ++ Part.copies ["subject", "status", "priority", "tags", "assignee_user"]

def updateBody : List Part :=
  Part.copies ["status", "subject", "priority", "tags", "assignee_user", "assignee_team", "spam"]

def operations : Operations := .ofList [
  ("list_tickets", (Operation.plain .get ticketsPath).sends
    (["limit", "cursor", "order_by", "customer_id", "view_id"].map .query)),
  ("get_ticket", (Operation.plain .get ticketPath).needs ["ticket_id"]),
  ("create_ticket",
    (((Operation.plain .post ticketsPath).needsThat "customer_email" Json.isEmail).needs
      ["message_body"]).withBody createBody),
  ("update_ticket", ((Operation.plain .put ticketPath).needs ["ticket_id"]).withBody updateBody),
  ("list_customers",
    (Operation.plain .get customersPath).sends (["limit", "cursor", "email"].map .query))]

/-- The details inside an error, or the message of a failed validation. -/
def errorText? (status : UInt16) (data : Json) : Option String :=
  (ErrorBody.nested? status data).or (ErrorBody.text? data "message")

def connector : Connector where
  name := "gorgias"
  service := "Gorgias"
  operations
  connectionFields := ["domain"]
  credentialFields := ["username", "api_key"]
  base := .fixed [.text "https://", .segment "domain", .text ".gorgias.com/api"]
  credentials := .basic "username" "" "api_key"
  handling := { Handling.ofService "Gorgias" with parse? := some errorText? }

end ServiceCall.Catalog.Gorgias
