import ServiceCall.Http.Method
import ServiceCall.Json.Reader

/-!
# Requests, responses and clients

A client takes one request and answers with a response or with a failure of the transport. What a
client remembers between requests is the state `σ`, so that code which sends requests can be run
against a script as well as against a network, and everything it sent can be inspected afterwards.
-/

namespace ServiceCall.Http

/-- What a request carries. -/
inductive Content where
  | empty
  | json (value : Json)
  | form (pairs : List (String × String))
  deriving DecidableEq

structure Request where
  method : Method
  url : String
  headers : List (String × String)
  params : List (String × String)
  content : Content
  /-- The time allowed, in seconds. -/
  timeout : Nat
  deriving DecidableEq

structure Response where
  status : UInt16
  body : String
  deriving DecidableEq

/-- No usable response was received. The status is that of a partial one. -/
structure TransportFailure where
  message : String
  status : Option UInt16
  deriving DecidableEq

abbrev Outcome := Except TransportFailure Response

abbrev Client (σ : Type) := Request → StateM σ Outcome

def isSuccess (status : UInt16) : Bool := 200 ≤ status && status < 300

def Response.isOk (r : Response) : Bool := isSuccess r.status

def Response.json? (r : Response) : Option Json := Json.read? r.body

/-! ## Playing a script

A scripted client answers from a list, keeps what it was asked and counts how often it was asked.
Once the list is used up every request fails; it is kept and counted all the same. -/

structure Script where
  pending : List Outcome
  /-- The requests received, the first one first. -/
  sent : List Request
  /-- How many requests were received. -/
  calls : Nat

namespace Script

def start (outcomes : List Outcome) : Script := ⟨outcomes, [], 0⟩

def usedUp : TransportFailure := ⟨"stub client has no scripted response", none⟩

def client : Client Script := fun request s ↦
  match s.pending with
  | [] => (.error usedUp, ⟨[], s.sent ++ [request], s.calls + 1⟩)
  | outcome :: rest => (outcome, ⟨rest, s.sent ++ [request], s.calls + 1⟩)

theorem sent_client (request : Request) (s : Script) :
    (client request s).2.sent = s.sent ++ [request] := by
  unfold client
  split <;> rfl

theorem pending_client (request : Request) (s : Script) :
    (client request s).2.pending = s.pending.tail := by
  unfold client
  split <;> simp_all

theorem calls_client (request : Request) (s : Script) :
    (client request s).2.calls = s.calls + 1 := by
  unfold client
  split <;> rfl

end Script

end ServiceCall.Http
