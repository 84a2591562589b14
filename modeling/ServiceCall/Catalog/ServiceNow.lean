import ServiceCall.Connector

/-!
# ServiceNow

The table interface under `https://{instance}.service-now.com/api/now/table`. The body of a record
is the object of fields that the caller supplies, unchanged.
-/

namespace ServiceCall.Catalog.ServiceNow

def tablePath : List Piece := [.text "/", .segment "table"]

def recordPath : List Piece := [.text "/", .segment "table", .text "/", .segment "sys_id"]

def incidentPath : List Piece := [.text "/incident"]

def displayQuery : List String := ["sysparm_fields", "sysparm_display_value"]

def listQuery : List String :=
  ["sysparm_query", "sysparm_fields", "sysparm_offset", "sysparm_display_value"]

/-- A list is limited to ten records unless the caller asks for another number. -/
def listParams : List Param := listQuery.map .query ++ [.textOr "sysparm_limit" "10"]

def recordBody : List Part := [.entries "fields"]

def incidentBody : List Part :=
  Part.copies ["short_description", "description", "urgency", "impact", "category", "caller_id",
    "assignment_group", "assigned_to"]

def operations : Operations := .ofList [
  ("get_record",
    ((Operation.plain .get recordPath).needs ["table", "sys_id"]).withQuery displayQuery),
  ("list_records",
    (((Operation.plain .get tablePath).needs ["table"]).checksQuery listQuery).sends listParams),
  ("create_record",
    (((Operation.plain .post tablePath).needs ["table"]).needsThat "fields" Json.isObject).withBody
      recordBody),
  ("update_record",
    (((Operation.plain .put recordPath).needs ["table", "sys_id"]).needsThat "fields"
      Json.isObject).withBody recordBody),
  ("create_incident",
    ((Operation.plain .post incidentPath).needs ["short_description"]).withBody incidentBody)]

def connector : Connector where
  name := "servicenow"
  service := "ServiceNow"
  operations
  connectionFields := ["instance"]
  credentialFields := ["username", "password"]
  base := .fixed [.text "https://", .segment "instance", .text ".service-now.com/api/now/table"]
  credentials := .basic "username" "" "password"
  handling :=
    { Handling.ofService "ServiceNow" with
      parse? := some ErrorBody.nested?
      requestError := "Failed to connect to ServiceNow instance" }

end ServiceCall.Catalog.ServiceNow
