import Replicast.Error.Basic
import Replicast.Header.Map
import Replicast.Http.Status
import Replicast.Json.Reader
import Replicast.Target
import Replicast.Text.Excerpt
import Replicast.Uri.Resolve
/-!
# Outcomes

What became of one target of a batch.

## Overview

* `RequestHead` and `ResponseHead` are the two sides of an exchange without their bodies.
* `Outcome` is the end of a target's work.  A response may be there even when the outcome counts
  as a failure; an error is set only when no usable response was read.
* `Outcome.json` decodes the body, and `Error.rejection` is the error of a handler that does not
  accept the status.
-/

namespace Replicast

/-! ## §1 Heads -/

/-- A request without its body. -/
structure RequestHead where
  method : Method
  uri : Uri
  headers : Header.Map
deriving DecidableEq, Repr

/-- The URI of a request as it may be shown. -/
def RequestHead.redactedUri (r : RequestHead) : String :=
  String.ofList r.uri.redacted

/-- The head as it is handed to the transport: built anew for every attempt. -/
def RequestHead.rebuilt (r : RequestHead) : RequestHead :=
  { r with headers := r.headers.rebuilt }

@[simp] theorem RequestHead.rebuilt_uri (r : RequestHead) : r.rebuilt.uri = r.uri := rfl

/-- The version of a response. -/
inductive HttpVersion where
  | http09
  | http10
  | http11
  | http2
  | http3
deriving DecidableEq, Repr

def HttpVersion.text : HttpVersion → String
  | http09 => "HTTP/0.9"
  | http10 => "HTTP/1.0"
  | http11 => "HTTP/1.1"
  | http2 => "HTTP/2.0"
  | http3 => "HTTP/3.0"

/-- A response without its body. -/
structure ResponseHead where
  status : Status
  version : HttpVersion
  headers : Header.Map
deriving DecidableEq, Repr

/-! ## §2 Outcomes -/

/-- What became of one target. -/
structure Outcome where
  target : Target
  request : RequestHead
  response : Option ResponseHead
  body : Bytes
  error : Option Error
  /-- The attempts that were begun; zero when the request was never built. -/
  attempts : Nat
deriving DecidableEq, Repr

namespace Outcome

/-- The outcome of a target that made no attempt. -/
def failed (target : Target) (request : RequestHead) (error : Error) : Outcome :=
  ⟨target, request, none, [], some error, 0⟩

def status? (o : Outcome) : Option Status :=
  o.response.map (·.status)

def statusCode? (o : Outcome) : Option Nat :=
  o.status?.map (·.code)

/-- Whether there is no error and the status ended the attempts with success. -/
def isSuccess (o : Outcome) : Bool :=
  o.error.isNone && o.status?.any Status.isTerminalSuccess

def text (o : Outcome) : String :=
  Utf8.textLossy o.body

/-- The body as a JSON document. -/
def json (o : Outcome) (shape : Json.Shape) : Except Error Json :=
  match Json.decode shape o.body with
  | .ok value => .ok value
  | .error e => .error (.deserialize e (Excerpt.ofBody o.body))

end Outcome

/-- The error of a handler that does not accept an outcome's status. -/
def Error.rejection (o : Outcome) : Error :=
  .rejected (o.statusCode?.getD 0) o.request.method o.request.redactedUri (Excerpt.ofBody o.body)

end Replicast
