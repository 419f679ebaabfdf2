import Replicast.Body.Request
import Replicast.Client.Builder
import Replicast.Json.Writer
import Replicast.Outcome.Handler
/-!
# Operations

One request to be sent to every target of a batch, and how it becomes the request of a single
target.

## Overview

* `Operation` describes the request and the batch; `Operation.apply` is the effect of one setting.
* `Operation.headersFor` are the headers that every target's request starts with.
* `Operation.prepare` builds the request of one target: its URI, the interceptor, and a copy of the
  body, in this order; the first that fails ends it.
-/

namespace Replicast

/-- A request to be sent to every target of a batch. -/
structure Operation where
  method : Method
  path : String
  query : List (String × String)
  headers : Header.Map
  body : RequestBody
  /-- The deadline of the batch, when it is not the client's. -/
  timeout : Option Duration
  retryPolicy : Option RetryPolicy
  /-- The name of the token whose cancellation cancels the batch. -/
  parent : Option String
  handler : Option Handler

namespace Operation

/-- A request with nothing but a method and a path. -/
def new (method : Method) (path : String) : Operation :=
  ⟨method, path, [], Header.Map.empty, .empty, none, none, none, none⟩

/-! ## §1 Settings -/

/-- A document to be sent as JSON: one that can be written, or the reason why it cannot. -/
abbrev Payload := Except String Json

/-- One thing to tell an operation. -/
inductive Setting where
  | queryPair (name value : String)
  | queryPairs (pairs : List (String × String))
  | header (name : Header.Name) (value : Header.Value)
  /-- A header by its texts, which may be refused. -/
  | tryHeader (name value : String)
  | headers (m : Header.Map)
  | body (b : RequestBody)
  | json (payload : Payload)
  | timeout (d : Duration)
  | retryPolicy (p : RetryPolicy)
  | parent (token : String)
  | handler (h : Handler)

/-- The operation after one setting.  Each setting of a header replaces the earlier values of its
    name, and so do the pairs of a map in turn. -/
def apply (op : Operation) : Setting → Except Error Operation
  | .queryPair name value => .ok { op with query := op.query ++ [(name, value)] }
  | .queryPairs pairs => .ok { op with query := op.query ++ pairs }
  | .header name value => .ok { op with headers := op.headers.insert name value }
  | .tryHeader name value => do
    let (n, v) ← ClientBuilder.readHeader name value
    .ok { op with headers := op.headers.insert n v }
  | .headers m => .ok { op with headers := op.headers.insertAll m.entries }
  | .body b => .ok { op with body := b }
  | .json payload =>
    match payload with
    | .error cause => .error (.serializeJson cause)
    | .ok document => .ok { op with
        body := .buffered (Utf8.encode document.write)
        headers := op.headers.insert Header.Name.contentType Header.Value.json }
  | .timeout d => .ok { op with timeout := some (d.longer minRequestTimeout) }
  | .retryPolicy p => .ok { op with retryPolicy := some p }
  | .parent token => .ok { op with parent := some token }
  | .handler h => .ok { op with handler := some h }

/-- The operation after a list of settings, in order; the first refusal ends it. -/
def applyAll (op : Operation) (settings : List Setting) : Except Error Operation :=
  settings.foldlM apply op

/-! ## §2 What a batch is bound by -/

def timeoutFor (op : Operation) (client : Client) : Duration :=
  op.timeout.getD client.requestTimeout

def retryPolicyFor (op : Operation) (client : Client) : RetryPolicy :=
  op.retryPolicy.getD client.retryPolicy

/-- The headers that every target's request starts with. -/
def headersFor (op : Operation) (client : Client) : Header.Map :=
  Header.keepAlive (Header.merge client.defaultHeaders op.headers)

/-! ## §3 The request of one target -/

/-- What became of the request of one target. -/
structure Preparation where
  target : Target
  /-- The head as far as it was built. -/
  head : RequestHead
  /-- The head that the interceptor was shown, if it was asked. -/
  intercepted : Option RequestHead
  /-- Whether the body was asked for a copy. -/
  opened : Bool
  /-- The copy of the body to send, or what went wrong. -/
  copy : Except Error Stream

/-- The URI of the request for a target, or the text that is none. -/
def uriFor (op : Operation) (t : Target) : Except Chars Uri :=
  Uri.resolve t.baseUrl.toList op.path.toList
    (op.query.map fun (name, value) => (name.toList, value.toList))

/-- Show a head to the interceptor of a client, if it has one. -/
def intercept (client : Client) (t : Target) (head : RequestHead) : Option Interception :=
  client.interceptor.map fun i => i t head

/-- Build the request of one target.  The last argument counts the openings of body factories so
    far. -/
def prepare (op : Operation) (client : Client) (t : Target) (openings : Nat) : Preparation :=
  let headers := op.headersFor client
  match op.uriFor t with
  | .error text =>
    ⟨t, ⟨op.method, Uri.root, headers⟩, none, false, .error (.invalidUri (String.ofList text))⟩
  | .ok uri =>
    let shown : RequestHead := ⟨op.method, uri, headers⟩
    let answer := intercept client t shown
    let consulted := answer.map fun _ => shown
    let head := answer.elim shown (·.head)
    match answer.bind (·.refusal) with
    | some e => ⟨t, head, consulted, false, .error (.intercepted t.index e)⟩
    | none =>
      match op.body.openCopy openings with
      | .ok copy => ⟨t, head, consulted, true, .ok copy⟩
      | .error cause =>
        ⟨t, head, consulted, true, .error (.bodyReplay op.method head.redactedUri cause)⟩

/-- How many openings of a body factory a preparation made. -/
def Preparation.openings (p : Preparation) (body : RequestBody) : Nat :=
  (p.opened && body.isFactory).toNat

def prepareAll (op : Operation) (client : Client) : Nat → List Target → List Preparation
  | _, [] => []
  | openings, t :: rest =>
    let p := op.prepare client t openings
    p :: prepareAll op client (openings + p.openings op.body) rest

end Operation

end Replicast
