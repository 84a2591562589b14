import ServiceCall.Connector

/-!
# BigQuery

The interface of a data warehouse, for one project, authorized by a service account. Rows to be
inserted may name the key that holds their identifier, by which repeated rows are recognized.
-/

namespace ServiceCall.Catalog.BigQuery

def scope : String := "https://www.googleapis.com/auth/bigquery"

def queriesPath : List Piece := [.text "/queries"]

def datasetsPath : List Piece := [.text "/datasets"]

def tablesPath : List Piece := [.text "/datasets/", .segment "dataset_id", .text "/tables"]

def tablePath : List Piece := tablesPath ++ [.text "/", .segment "table_id"]

def insertPath : List Piece := tablePath ++ [.text "/insertAll"]

def pageParams : List Param := [.query "pageToken", .text "max_results" "maxResults"]

def queryBody : List Part :=
  [.copy "query" "query", .flag "use_legacy_sql" "useLegacySql", .copy "max_results" "maxResults",
    .copy "timeout_ms" "timeoutMs", .copy "location" "location",
    .copy "query_parameters" "queryParameters",
    .ifText "dataset_id" [.object "defaultDataset"
      [.text "project_id" "projectId" "", .text "dataset_id" "datasetId" ""]]]

def insertBody : List Part :=
  [.const "kind" (.str "bigquery#tableDataInsertAllRequest"), .rows "rows" "insert_id_field" "rows",
    .copy "skip_invalid_rows" "skipInvalidRows",
    .copy "ignore_unknown_values" "ignoreUnknownValues"]

def operations : Operations := .ofList [
  ("run_query", ((Operation.plain .post queriesPath).needs ["query"]).withBody queryBody),
  ("list_datasets", (Operation.plain .get datasetsPath).sends pageParams),
  ("list_tables", ((Operation.plain .get tablesPath).needs ["dataset_id"]).sends pageParams),
  ("get_table", (Operation.plain .get tablePath).needs ["dataset_id", "table_id"]),
  ("insert_rows",
    (((Operation.plain .post insertPath).needs ["dataset_id", "table_id"]).needsThat "rows"
      Json.isNonEmptyList).withBody insertBody)]

def connector : Connector where
  name := "bigquery"
  service := "BigQuery"
  operations
  connectionFields := ["project_id"]
  credentialFields := ["service_account_json"]
  base := .fixed
    [.text "https://bigquery.googleapis.com/bigquery/v2/projects/", .segment "project_id"]
  credentials := .serviceAccount "service_account_json" [scope] "subject"
  handling := { Handling.ofService "BigQuery" with parse? := some ErrorBody.nested? }

end ServiceCall.Catalog.BigQuery
