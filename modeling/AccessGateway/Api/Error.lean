import AccessGateway.Api.Problem
import AccessGateway.Authorization.Guard

/-
  Errors of the handlers behind the gateway, and the problems that they become. What went wrong
  inside stays inside: an evaluation that failed and an internal error tell the client nothing.
-/

namespace AccessGateway

/-- Why a handler gives no answer. -/
inductive ApiError where
  | authorization (e : AuthorizationError)
  | notFound (detail : String)
  | badRequest (detail : String)
  | conflict (detail : String)
  | internal (detail : String)
deriving DecidableEq, Repr

namespace ApiError

/-- The text of an error. -/
def message : ApiError → String
  | authorization e => e.message
  | notFound detail => detail
  | badRequest detail => detail
  | conflict detail => detail
  | internal detail => detail

/-- The problem that an error becomes. -/
def toProblem : ApiError → Problem
  | authorization (.evaluation _) => .internal "Authorization could not be evaluated"
  | authorization e => .forbidden e.message
  | notFound detail => .of 404 "Not Found" detail
  | badRequest detail => .of 400 "Bad Request" detail
  | conflict detail => .of 409 "Conflict" detail
  | internal _ => .internal "Internal error"

/-- The response to an error. -/
def response (e : ApiError) : Response := e.toProblem.response

end ApiError

end AccessGateway
