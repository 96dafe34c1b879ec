import AccessGateway.Gateway.Basic
import AccessGateway.Server.Body
import AccessGateway.Server.Config

/-
  The server: the gateway in front of the collections service. `Server.respond` answers one
  request; the store is all that one request leaves to the next.
-/

namespace AccessGateway

/-- The response to a call of the collections service. -/
def ServiceRun.response (run : ServiceRun) : Response :=
  match run.result with
  | .ok v => .json 200 v
  | .error e => e.toApiError.response

/-- A gateway and the hooks around the operations behind it. -/
structure Server where
  gateway : Gateway
  hooks : CollectionHooks

namespace Server

/-- The version of the service. -/
def version : String := "0.1.0"

/-- What the service says of itself. -/
def description : Json := .object [("service", .text "gatekeeper"), ("version", .text version)]

/-- What a heartbeat answers: the time in nanoseconds. -/
def heartbeat (clock : Nat) : Json := .object [("nanosecond heartbeat", Json.ofNat clock)]

/-- Does a task for a request that was let through. -/
def perform (s : Server) (clock : Nat) (v : Visit) : Task → StateM Store Response
  | .describe => pure (.json 200 description)
  | .heartbeat => pure (.json 200 (heartbeat clock))
  | .version => pure (.json 200 (.text version))
  | .operate op written => fun store =>
    match CollectionCall.ofRequest op written v.request with
    | .error e => (e.response, store)
    | .ok c =>
      let run := c.run s.hooks v.scope store
      (run.response, run.store)

/-- Answers a request that was let through. -/
def routes (s : Server) (clock : Nat) (v : Visit) : StateM Store Response :=
  match Endpoint.ofPath? v.request.path with
  | none => pure (.bare 404)
  | some e =>
    match e.task? v.request.method with
    | none => pure (.bare 405)
    | some t => s.perform clock v t

/-- Answers a request at a time. -/
def respond (s : Server) (clock : Nat) (r : Request) : StateM Store Response := do
  let answer ← s.gateway.handle (s.routes clock) r
  pure ((answer.withAllow (Endpoint.allowed? r)).answering r.method)

/-- Answers requests in order, each at its time. -/
def respondAll (s : Server) : List (Nat × Request) → StateM Store (List Response)
  | [] => pure []
  | (clock, r) :: rest => do
    let answer ← s.respond clock r
    let answers ← s.respondAll rest
    pure (answer :: answers)

/-- The hooks of a configured server: one that watches. -/
def watched : CollectionHooks := Dispatcher.empty.register (.observer "logging")

/-- The server of a configuration. -/
def ofConfig (c : AppConfig) (files : Files) : Except GatewayError Server :=
  (Gateway.ofRegistry c.gateway .builtin c.providers files).map fun g => ⟨g, watched⟩

end Server

end AccessGateway
