/-!
# Error codes

## Overview

* `ErrorCode` names each kind of failure, in a fixed order, with a word for counters and messages.
* `ErrorCode.isBuildError` singles out the failures that come before any network traffic.
* `TransportErrorKind` is a rough cause of a failed exchange.
-/

namespace Replicast

/-- A rough cause of a failed exchange. -/
inductive TransportErrorKind where
  | dns
  | connect
  | tls
  | read
  | other
deriving DecidableEq, Repr

namespace TransportErrorKind

def all : List TransportErrorKind := [dns, connect, tls, read, other]

def word : TransportErrorKind → String
  | dns => "dns"
  | connect => "connect"
  | tls => "tls"
  | read => "read"
  | other => "other"

def name : TransportErrorKind → String
  | dns => "Dns"
  | connect => "Connect"
  | tls => "Tls"
  | read => "Read"
  | other => "Other"

def rank (k : TransportErrorKind) : Nat := all.idxOf k

def ofWord? (w : String) : Option TransportErrorKind :=
  all.find? (·.word == w)

end TransportErrorKind

/-- The kinds of failure. -/
inductive ErrorCode where
  | invalidUri
  | invalidHeaderName
  | invalidHeaderValue
  | requestBuild
  | serializeJson
  | intercepted
  | bodyReplay
  | transport
  | deadlineExceeded
  | cancelled
  | readBody
  | responseBodyTooLarge
  | workerAborted
  | rejected
  | deserialize
  | custom
deriving DecidableEq, Repr

namespace ErrorCode

def all : List ErrorCode :=
  [invalidUri, invalidHeaderName, invalidHeaderValue, requestBuild, serializeJson, intercepted,
    bodyReplay, transport, deadlineExceeded, cancelled, readBody, responseBodyTooLarge,
    workerAborted, rejected, deserialize, custom]

def word : ErrorCode → String
  | invalidUri => "invalid_uri"
  | invalidHeaderName => "invalid_header_name"
  | invalidHeaderValue => "invalid_header_value"
  | requestBuild => "request_build"
  | serializeJson => "serialize_json"
  | intercepted => "intercepted"
  | bodyReplay => "body_replay"
  | transport => "transport"
  | deadlineExceeded => "deadline_exceeded"
  | cancelled => "cancelled"
  | readBody => "read_body"
  | responseBodyTooLarge => "response_body_too_large"
  | workerAborted => "worker_aborted"
  | rejected => "rejected"
  | deserialize => "deserialize"
  | custom => "custom"

def name : ErrorCode → String
  | invalidUri => "InvalidUri"
  | invalidHeaderName => "InvalidHeaderName"
  | invalidHeaderValue => "InvalidHeaderValue"
  | requestBuild => "RequestBuild"
  | serializeJson => "SerializeJson"
  | intercepted => "Intercepted"
  | bodyReplay => "BodyReplay"
  | transport => "Transport"
  | deadlineExceeded => "DeadlineExceeded"
  | cancelled => "Cancelled"
  | readBody => "ReadBody"
  | responseBodyTooLarge => "ResponseBodyTooLarge"
  | workerAborted => "WorkerAborted"
  | rejected => "Rejected"
  | deserialize => "Deserialize"
  | custom => "Custom"

def rank (c : ErrorCode) : Nat := all.idxOf c

def ofWord? (w : String) : Option ErrorCode :=
  all.find? (·.word == w)

/-- The failures that come before any network traffic for the target. -/
def isBuildError : ErrorCode → Bool
  | invalidUri | invalidHeaderName | invalidHeaderValue | requestBuild | serializeJson | intercepted
  | bodyReplay => true
  | _ => false

end ErrorCode

end Replicast
