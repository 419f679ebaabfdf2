import Replicast.Error.Code
import Replicast.Http.Token
import Replicast.Json.Error
/-!
# Errors

## Overview

* `Error` is a failure with its circumstances.  URIs in it are redacted.
* `Error.code` classifies it, `Error.message` puts it into words, and `Error.cause?` is the text of
  what lies directly behind it.
* `AggregateError` gathers the failures of a batch.
-/

namespace Replicast

/-- A failure. -/
inductive Error where
  | invalidUri (uri : String)
  | invalidHeaderName (name : String)
  | invalidHeaderValue (name : String)
  | requestBuild (cause : String)
  | serializeJson (cause : String)
  | intercepted (index : Nat) (cause : Error)
  | bodyReplay (method : Method) (uri : String) (cause : String)
  | transport (kind : TransportErrorKind) (method : Method) (uri : String) (cause : String)
  | deadlineExceeded (timeoutMs : Nat) (method : Method) (uri : String)
  | cancelled (method : Method) (uri : String)
  | readBody (cause : String)
  | responseBodyTooLarge (limit actual : Nat) (method : Method) (uri : String)
  | workerAborted (method : Method) (uri : String)
  | rejected (status : Nat) (method : Method) (uri : String) (body : String)
  | deserialize (cause : Json.ReadError) (body : String)
  | custom (cause : String)
deriving DecidableEq, Repr

namespace Error

/-! ## §1 Codes -/

def code : Error → ErrorCode
  | invalidUri _ => .invalidUri
  | invalidHeaderName _ => .invalidHeaderName
  | invalidHeaderValue _ => .invalidHeaderValue
  | requestBuild _ => .requestBuild
  | serializeJson _ => .serializeJson
  | intercepted _ _ => .intercepted
  | bodyReplay _ _ _ => .bodyReplay
  | transport _ _ _ _ => .transport
  | deadlineExceeded _ _ _ => .deadlineExceeded
  | cancelled _ _ => .cancelled
  | readBody _ => .readBody
  | responseBodyTooLarge _ _ _ _ => .responseBodyTooLarge
  | workerAborted _ _ => .workerAborted
  | rejected _ _ _ _ => .rejected
  | deserialize _ _ => .deserialize
  | custom _ => .custom

/-! ## §2 Words -/

def badName : String := "invalid HTTP header name"

def badValue : String := "failed to parse header value"

def place (method : Method) (uri : String) : String :=
  method.name ++ " " ++ uri

def message : Error → String
  | invalidUri uri => "invalid request uri: " ++ uri
  | invalidHeaderName name => "invalid header name " ++ name ++ ": " ++ badName
  | invalidHeaderValue name => "invalid header value for " ++ name ++ ": " ++ badValue
  | requestBuild cause => "failed to build http request: " ++ cause
  | serializeJson cause => "failed to serialize request json: " ++ cause
  | intercepted index cause =>
    "request for target " ++ toString index ++ " rejected by interceptor: " ++ cause.message
  | bodyReplay method uri cause =>
    "failed to open a fresh request body for " ++ place method uri ++ ": " ++ cause
  | transport kind method uri cause =>
    "http transport error (" ++ kind.word ++ ") for " ++ place method uri ++ ": " ++ cause
  | deadlineExceeded timeoutMs method uri =>
    "batch deadline exceeded after " ++ toString timeoutMs ++ "ms for " ++ place method uri
  | cancelled method uri => "batch cancelled before " ++ place method uri ++ " completed"
  | readBody cause => "failed to read response body: " ++ cause
  | responseBodyTooLarge limit actual method uri =>
    "response body too large (" ++ toString actual ++ " bytes > " ++ toString limit
      ++ " bytes) for " ++ place method uri
  | workerAborted method uri =>
    "worker for " ++ place method uri ++ " stopped without reporting an outcome"
  | rejected status method uri body =>
    "response " ++ toString status ++ " rejected for " ++ place method uri ++ ": " ++ body
  | deserialize cause body =>
    "failed to decode response json: " ++ cause.message ++ "; body=" ++ body
  | custom cause => cause

/-- The text of what lies directly behind an error. -/
def cause? : Error → Option String
  | invalidHeaderName _ => some badName
  | invalidHeaderValue _ => some badValue
  | requestBuild cause => some cause
  | serializeJson cause => some cause
  | intercepted _ cause => some cause.message
  | bodyReplay _ _ cause => some cause
  | transport _ _ _ cause => some cause
  | readBody cause => some cause
  | deserialize cause _ => some cause.message
  | custom cause => some cause
  | _ => none

/-- Whether an error comes before any network traffic for the target. -/
def isBuildError (e : Error) : Bool :=
  e.code.isBuildError

end Error

/-- The failures of a batch. -/
structure AggregateError where
  errors : List Error
  dispatched : Nat
  /-- The batch was cancelled, or met its deadline, before every outcome was in. -/
  interrupted : Bool
deriving DecidableEq, Repr

namespace AggregateError

/-- The failures in words; the first one stands for all. -/
def message (e : AggregateError) : String :=
  toString e.errors.length ++ " of " ++ toString e.dispatched ++ " targets failed"
    ++ (if e.interrupted then " (batch interrupted)" else "")
    ++ (match e.errors.head? with
      | some first => "; first error: " ++ first.message
      | none => "")

end AggregateError

end Replicast
