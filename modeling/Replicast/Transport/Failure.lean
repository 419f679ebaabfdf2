import Replicast.Error.Code
import Replicast.Text.Chars
/-!
# Failures of the transport

What a transport reports when an exchange fails, and the rough cause it is put down to.

## Overview

* `TransportFailure` is an error of the HTTP client itself, an error of the operating system, or any
  other error; `TransportFailure.text` is what each of them says of itself.
* `TransportFailure.kind` looks at the error itself and not at what lies behind it.
-/

namespace Replicast

/-! ## §1 Errors of the operating system -/

/-- The kinds of errors of the operating system. -/
inductive IoKind where
  | notFound
  | permissionDenied
  | connectionRefused
  | connectionReset
  | hostUnreachable
  | networkUnreachable
  | connectionAborted
  | notConnected
  | addrInUse
  | addrNotAvailable
  | networkDown
  | brokenPipe
  | alreadyExists
  | wouldBlock
  | invalidInput
  | invalidData
  | timedOut
  | writeZero
  | interrupted
  | unsupported
  | unexpectedEof
  | outOfMemory
  | other
deriving DecidableEq, Repr

namespace IoKind

def all : List IoKind :=
  [notFound, permissionDenied, connectionRefused, connectionReset, hostUnreachable,
    networkUnreachable, connectionAborted, notConnected, addrInUse, addrNotAvailable, networkDown,
    brokenPipe, alreadyExists, wouldBlock, invalidInput, invalidData, timedOut, writeZero,
    interrupted, unsupported, unexpectedEof, outOfMemory, other]

def name : IoKind → String
  | notFound => "NotFound"
  | permissionDenied => "PermissionDenied"
  | connectionRefused => "ConnectionRefused"
  | connectionReset => "ConnectionReset"
  | hostUnreachable => "HostUnreachable"
  | networkUnreachable => "NetworkUnreachable"
  | connectionAborted => "ConnectionAborted"
  | notConnected => "NotConnected"
  | addrInUse => "AddrInUse"
  | addrNotAvailable => "AddrNotAvailable"
  | networkDown => "NetworkDown"
  | brokenPipe => "BrokenPipe"
  | alreadyExists => "AlreadyExists"
  | wouldBlock => "WouldBlock"
  | invalidInput => "InvalidInput"
  | invalidData => "InvalidData"
  | timedOut => "TimedOut"
  | writeZero => "WriteZero"
  | interrupted => "Interrupted"
  | unsupported => "Unsupported"
  | unexpectedEof => "UnexpectedEof"
  | outOfMemory => "OutOfMemory"
  | other => "Other"

/-- What an error of a kind says when nothing more is known. -/
def text : IoKind → String
  | notFound => "entity not found"
  | permissionDenied => "permission denied"
  | connectionRefused => "connection refused"
  | connectionReset => "connection reset"
  | hostUnreachable => "host unreachable"
  | networkUnreachable => "network unreachable"
  | connectionAborted => "connection aborted"
  | notConnected => "not connected"
  | addrInUse => "address in use"
  | addrNotAvailable => "address not available"
  | networkDown => "network down"
  | brokenPipe => "broken pipe"
  | alreadyExists => "entity already exists"
  | wouldBlock => "operation would block"
  | invalidInput => "invalid input parameter"
  | invalidData => "invalid data"
  | timedOut => "timed out"
  | writeZero => "write zero"
  | interrupted => "operation interrupted"
  | unsupported => "unsupported"
  | unexpectedEof => "unexpected end of file"
  | outOfMemory => "out of memory"
  | other => "other error"

def ofName? (n : String) : Option IoKind :=
  all.find? (·.name == n)

end IoKind

/-! ## §2 Failures -/

/-- What can go wrong inside the HTTP client. -/
inductive ClientFault where
  /-- No connection was made. -/
  | connect
  /-- The URI has no scheme and host to connect to. -/
  | absoluteUriRequired
deriving DecidableEq, Repr

/-- What an HTTP client says of its fault. -/
def ClientFault.text : ClientFault → String
  | connect => "client error (Connect)"
  | absoluteUriRequired => "client error (UserAbsoluteUriRequired)"

/-- A failed exchange, with the texts of the errors that lie behind it. -/
inductive TransportFailure where
  | client (fault : ClientFault) (behind : List String)
  | io (kind : IoKind) (message : Option String)
  | plain (message : String) (behind : List String)
deriving DecidableEq, Repr

namespace TransportFailure

/-- What a failure says of itself. -/
def text : TransportFailure → String
  | client fault _ => fault.text
  | io kind message => message.getD kind.text
  | plain message _ => message

/-- Whether a text mentions one of some words, whatever the case of its ASCII letters. -/
def mentions (words : List String) (text : String) : Bool :=
  words.any fun word => Chars.occursIn word.toList (Chars.lower text.toList)

/-- Words that tell a failed look-up of a name. -/
def dnsWords : List String := ["dns", "name or service not known", "failed to lookup address"]

/-- Words that tell a failed handshake. -/
def tlsWords : List String := ["tls", "certificate", "handshake"]

/-- Words that tell a broken connection. -/
def readWords : List String := ["read", "connection reset", "broken pipe", "unexpected eof"]

/-- The cause that the text of any error is put down to. -/
def kindOfText (text : String) : TransportErrorKind :=
  if mentions readWords text then .read else .other

/-- The rough cause of a failure. -/
def kind (f : TransportFailure) : TransportErrorKind :=
  match f with
  | client .connect _ =>
    if mentions dnsWords f.text then .dns
    else if mentions tlsWords f.text then .tls
    else .connect
  | client .absoluteUriRequired _ => kindOfText f.text
  | io .connectionRefused _ => .connect
  | io .notConnected _ => .connect
  | io .connectionReset _ => .read
  | io .brokenPipe _ => .read
  | io .unexpectedEof _ => .read
  | io _ _ => .other
  | plain message _ => kindOfText message

end TransportFailure

end Replicast
