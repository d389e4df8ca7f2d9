import QueryBindings.Endpoint.Settings
import QueryBindings.Generation
import QueryBindings.Introspection
import QueryBindings.Json.Value

/-! # Requests and answers

What is posted to an endpoint, and what its answer tells of the schema. -/

namespace QueryBindings.Endpoint

/-! ## Status codes -/

/-- The reason phrase of a status code. -/
def reason? : Nat → Option String
  | 100 => some "Continue"
  | 101 => some "Switching Protocols"
  | 102 => some "Processing"
  | 103 => some "Early Hints"
  | 200 => some "OK"
  | 201 => some "Created"
  | 202 => some "Accepted"
  | 203 => some "Non Authoritative Information"
  | 204 => some "No Content"
  | 205 => some "Reset Content"
  | 206 => some "Partial Content"
  | 207 => some "Multi-Status"
  | 208 => some "Already Reported"
  | 226 => some "IM Used"
  | 300 => some "Multiple Choices"
  | 301 => some "Moved Permanently"
  | 302 => some "Found"
  | 303 => some "See Other"
  | 304 => some "Not Modified"
  | 305 => some "Use Proxy"
  | 307 => some "Temporary Redirect"
  | 308 => some "Permanent Redirect"
  | 400 => some "Bad Request"
  | 401 => some "Unauthorized"
  | 402 => some "Payment Required"
  | 403 => some "Forbidden"
  | 404 => some "Not Found"
  | 405 => some "Method Not Allowed"
  | 406 => some "Not Acceptable"
  | 407 => some "Proxy Authentication Required"
  | 408 => some "Request Timeout"
  | 409 => some "Conflict"
  | 410 => some "Gone"
  | 411 => some "Length Required"
  | 412 => some "Precondition Failed"
  | 413 => some "Payload Too Large"
  | 414 => some "URI Too Long"
  | 415 => some "Unsupported Media Type"
  | 416 => some "Range Not Satisfiable"
  | 417 => some "Expectation Failed"
  | 418 => some "I'm a teapot"
  | 421 => some "Misdirected Request"
  | 422 => some "Unprocessable Entity"
  | 423 => some "Locked"
  | 424 => some "Failed Dependency"
  | 425 => some "Too Early"
  | 426 => some "Upgrade Required"
  | 428 => some "Precondition Required"
  | 429 => some "Too Many Requests"
  | 431 => some "Request Header Fields Too Large"
  | 451 => some "Unavailable For Legal Reasons"
  | 500 => some "Internal Server Error"
  | 501 => some "Not Implemented"
  | 502 => some "Bad Gateway"
  | 503 => some "Service Unavailable"
  | 504 => some "Gateway Timeout"
  | 505 => some "HTTP Version Not Supported"
  | 506 => some "Variant Also Negotiates"
  | 507 => some "Insufficient Storage"
  | 508 => some "Loop Detected"
  | 510 => some "Not Extended"
  | 511 => some "Network Authentication Required"
  | _ => none

/-- A status code with its `reason?`. -/
def statusText (code : Nat) : String :=
  toString code ++ " " ++ (reason? code).getD "<unknown status code>"

def isSuccess (code : Nat) : Bool := 200 ≤ code && code < 300

end QueryBindings.Endpoint

/-! ## Requests

What is posted to run an operation. -/

namespace QueryBindings

/-- The body of a request: `query`, the name of the operation if there is one, and the values of its
variables. -/
def requestBody (query : String) (name : Option String) (values : Json.Value) : Json.Value :=
  .object (("query", .string query) ::
    ((name.map fun n => ("operationName", Json.Value.string n)).toList ++
      [("variables", values)]))

def RenderedOperation.requestBody (o : RenderedOperation) (values : Json.Value) : Json.Value :=
  QueryBindings.requestBody o.text o.operation.name values

/-- The body of the request that asks for a schema, with `Introspection.query`. -/
def Introspection.requestBody : Json.Value :=
  QueryBindings.requestBody Introspection.query none (.object [])

end QueryBindings

/-! ## Asking an endpoint for its schema

An answer counts only with a status of success and without errors.  Errors that it reports come
before its status, and under a status of failure it need not be readable at all; then the `Wording`
of the fault is part of the message. -/

namespace QueryBindings.Endpoint

open Introspection

/-- What came back: a status code and a text. -/
structure Answer where
  status : Nat
  body : String
deriving DecidableEq, Repr, Inhabited

namespace Answer

/-- The error of a status that is not one of success, with `remark` in brackets if there is one. -/
def refusal (a : Answer) (remark : Option String) : Error :=
  .response (some a.status) [] a.body ("graphql http error: " ++ statusText a.status ++
    match remark with
    | some text => " (" ++ text ++ ")"
    | none => "")

/-- The response in `a.body`.  Errors that it reports come before the status; under a status that is
no success an unreadable body is a `refusal` as well. -/
def response {α : Type} (wording : Json.Wording) (decoder : Json.Decoder α) (a : Answer) :
    Except Error (Response α) :=
  match Json.decodeText (Response.decoder decoder) a.body with
  | .error fault =>
    .error (if isSuccess a.status then .json fault else a.refusal (some (wording fault)))
  | .ok r =>
    if r.hasErrors then .error (.response (some a.status) r.errors a.body r.summary)
    else if isSuccess a.status then .ok r
    else .error (a.refusal none)

/-- What `a` tells of the schema, if its response has data. -/
def payload (wording : Json.Wording) (a : Answer) : Except Error Payload := do
  let r ← a.response wording dataDecoder
  match r.data.bind id with
  | some payload => .ok payload
  | none => .error .incompleteIntrospection

end Answer

/-- A way to post a body to a URL, in the monad `m`. -/
abbrev Transport (m : Type → Type) := Url → Json.Value → m (Except Error Answer)

def Transport.closed {m : Type → Type} [Monad m] : Transport m := fun url _ =>
  return .error (.http ("error sending request for url (" ++ url.text ++ ")"))

/-- Asks the endpoint of `s` for its schema: one `Introspection.requestBody` is posted with `send`.
-/
def Settings.ask {m : Type → Type} [Monad m] (s : Settings) (wording : Json.Wording)
    (send : Transport m) : m (Except Error Payload) := do
  match s.url with
  | .error e => return .error e
  | .ok url => return (← send url Introspection.requestBody).bind (·.payload wording)

end QueryBindings.Endpoint
