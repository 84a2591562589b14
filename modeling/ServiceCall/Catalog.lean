import ServiceCall.Catalog.BigQuery
import ServiceCall.Catalog.GitLab
import ServiceCall.Catalog.GoogleDocs
import ServiceCall.Catalog.Gorgias
import ServiceCall.Catalog.HubSpot
import ServiceCall.Catalog.ServiceNow
import ServiceCall.Catalog.Zendesk

/-!
# The catalog

The services that are known from the start.
-/

namespace ServiceCall.Catalog

def all : List Connector :=
  [Zendesk.connector, Gorgias.connector, HubSpot.connector, GitLab.connector, ServiceNow.connector,
    BigQuery.connector, GoogleDocs.connector]

def find? (name : String) : Option Connector := all.find? (·.name = name)

end ServiceCall.Catalog
