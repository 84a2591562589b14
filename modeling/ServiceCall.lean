import ServiceCall.Args
import ServiceCall.Call
import ServiceCall.Catalog
import ServiceCall.Catalog.BigQuery
import ServiceCall.Catalog.GitLab
import ServiceCall.Catalog.GoogleDocs
import ServiceCall.Catalog.Gorgias
import ServiceCall.Catalog.HubSpot
import ServiceCall.Catalog.ServiceNow
import ServiceCall.Catalog.Zendesk
import ServiceCall.Check
import ServiceCall.CommandLine
import ServiceCall.Connector
import ServiceCall.Credentials
import ServiceCall.Decimal.Binary64
import ServiceCall.Decimal.Shortest
import ServiceCall.Encoding.Base64
import ServiceCall.Encoding.Percent
import ServiceCall.Encoding.Utf8
import ServiceCall.EnvFile
import ServiceCall.EnvFile.Line
import ServiceCall.EnvFile.Template
import ServiceCall.Envelope
import ServiceCall.Failure
import ServiceCall.Fallback
import ServiceCall.Handling
import ServiceCall.HostName
import ServiceCall.HostName.Folding
import ServiceCall.HostName.Folding.Table
import ServiceCall.HostName.Punycode
import ServiceCall.Http.Basic
import ServiceCall.Http.Method
import ServiceCall.Http.Network
import ServiceCall.Json.Basic
import ServiceCall.Json.Fault
import ServiceCall.Json.Number
import ServiceCall.Json.Printer
import ServiceCall.Json.Reader
import ServiceCall.Json.Record
import ServiceCall.Json.Skip
import ServiceCall.Main
import ServiceCall.Operation
import ServiceCall.Operation.Body
import ServiceCall.Operation.Path
import ServiceCall.Operation.Query
import ServiceCall.Program
import ServiceCall.Proofs.Accounting
import ServiceCall.Proofs.Addresses
import ServiceCall.Proofs.Admission
import ServiceCall.Proofs.Assertions
import ServiceCall.Proofs.Authorization
import ServiceCall.Proofs.Base64
import ServiceCall.Proofs.BasicHeaders
import ServiceCall.Proofs.Blanks
import ServiceCall.Proofs.Bodies
import ServiceCall.Proofs.ByteOrder
import ServiceCall.Proofs.CallCommand
import ServiceCall.Proofs.CommandLines
import ServiceCall.Proofs.DotSegments
import ServiceCall.Proofs.Doubles
import ServiceCall.Proofs.Duplicates
import ServiceCall.Proofs.Edits
import ServiceCall.Proofs.Endings
import ServiceCall.Proofs.Escapes
import ServiceCall.Proofs.Exchange
import ServiceCall.Proofs.Filling
import ServiceCall.Proofs.KeyFiles
import ServiceCall.Proofs.KeyForms
import ServiceCall.Proofs.LastWrites
import ServiceCall.Proofs.Layouts
import ServiceCall.Proofs.Messages
import ServiceCall.Proofs.NumberTexts
import ServiceCall.Proofs.Objects
import ServiceCall.Proofs.Outcomes
import ServiceCall.Proofs.Outlines
import ServiceCall.Proofs.Override
import ServiceCall.Proofs.Passing
import ServiceCall.Proofs.Presence
import ServiceCall.Proofs.Preview
import ServiceCall.Proofs.QueryArguments
import ServiceCall.Proofs.QueryForms
import ServiceCall.Proofs.Reading
import ServiceCall.Proofs.Reads
import ServiceCall.Proofs.Records
import ServiceCall.Proofs.Recovery
import ServiceCall.Proofs.Redirects
import ServiceCall.Proofs.Registration
import ServiceCall.Proofs.Rows
import ServiceCall.Proofs.Scalars
import ServiceCall.Proofs.Secrecy
import ServiceCall.Proofs.Segments
import ServiceCall.Proofs.SelfManaged
import ServiceCall.Proofs.Signatures
import ServiceCall.Proofs.Skimming
import ServiceCall.Proofs.Spelling
import ServiceCall.Proofs.Splitting
import ServiceCall.Proofs.Templates
import ServiceCall.Proofs.TokenAnswers
import ServiceCall.Proofs.Tokens
import ServiceCall.Proofs.Unambiguous
import ServiceCall.Proofs.Unread
import ServiceCall.Proofs.WellFormed
import ServiceCall.Refusal
import ServiceCall.Registry
import ServiceCall.ServiceAccount.Assertion
import ServiceCall.ServiceAccount.Key
import ServiceCall.ServiceAccount.Token
import ServiceCall.Settings
import ServiceCall.Settings.Reader
import ServiceCall.Settings.Search
import ServiceCall.Signature.Armor
import ServiceCall.Signature.Der
import ServiceCall.Signature.Digest
import ServiceCall.Signature.KeyFile
import ServiceCall.Signature.Moment
import ServiceCall.Signature.Rsa
import ServiceCall.Table
import ServiceCall.Text.Blank
import ServiceCall.Text.Composition
import ServiceCall.Text.Composition.Pairs
import ServiceCall.Text.Description
import ServiceCall.Text.Direction
import ServiceCall.Text.Joining
import ServiceCall.Text.Mark
import ServiceCall.Text.Run
import ServiceCall.Text.Upper
import ServiceCall.Text.Visible
import ServiceCall.Text.Word
import ServiceCall.Toml.Basic
import ServiceCall.Toml.Document
import ServiceCall.Toml.Draft
import ServiceCall.Toml.Quoted
import ServiceCall.Toml.Scalar
import ServiceCall.Url.Basic
import ServiceCall.Url.Host
import ServiceCall.Url.Reader
import ServiceCall.Url.Resolve
import ServiceCall.World
import ServiceCall.World.Tree
import ServiceCall.Proofs.Contacts
import ServiceCall.Proofs.Tickets
