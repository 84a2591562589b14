import ServiceCall.Credentials
import ServiceCall.Handling
import ServiceCall.Operation

/-!
# Connectors

A connector is a service described as data: its operations, where it is reached, which arguments
hold the credentials, and how its failures are worded. Everything that a call to the service looks
at can be read off this description (`Connector.reads`).
-/

namespace ServiceCall

structure Connector where
  /-- The name under which it is registered. -/
  name : String
  /-- The name shown in messages. -/
  service : String
  operations : Operations
  /-- Arguments without which the service cannot be addressed. -/
  connectionFields : List String := []
  /-- Arguments without which a call cannot be authorized. -/
  credentialFields : List String
  base : Base
  credentials : Credentials.Source
  handling : Handling

namespace Operation

/-- The arguments that an operation looks at. -/
def reads (op : Operation) : List String :=
  op.required.map (·.name) ++ op.optional.map (·.name) ++ Piece.reads op.path ++
    (op.query.map Param.reads).getD [] ++ (op.body.map Part.readsAll).getD []

end Operation

namespace Connector

/-- The arguments that a call to the service looks at, whatever the operation. -/
def reads (c : Connector) : List String :=
  "operation" :: c.connectionFields ++ c.credentialFields ++ c.base.reads ++ c.credentials.reads ++
    c.operations.entries.flatMap fun e ↦ e.2.reads

/-- The names of the operations, in order. -/
def operationNames (c : Connector) : List String := c.operations.keys

end Connector

end ServiceCall
