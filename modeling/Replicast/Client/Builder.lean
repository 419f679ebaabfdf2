import Replicast.Client.Config
import Replicast.Header.Map
import Replicast.Outcome.Basic
/-!
# Clients

## Overview

* `Interceptor` is the last chance to adjust or refuse the request built for one target.
* `Client` is what a configured client knows.
* `ClientBuilder` takes a configuration and further settings; `ClientBuilder.build` makes the client
  and brings its timeout to one millisecond at least.
-/

namespace Replicast

/-! ## §1 Interceptors -/

/-- What an interceptor leaves of a request, and an error if it refuses the target.  It may adjust
    the headers, and it may put any other request in the place of this one. -/
structure Interception where
  head : RequestHead
  refusal : Option Error

/-- Adjusts or refuses the request of a target. -/
abbrev Interceptor := Target → RequestHead → Interception

/-! ## §2 Clients -/

/-- What a client knows. -/
structure Client where
  name : String
  requestTimeout : Duration
  retryPolicy : RetryPolicy
  maxResponseBodyBytes : Nat
  defaultHeaders : Header.Map
  interceptor : Option Interceptor
  metricsEnabled : Bool

def Client.describe (c : Client) : String :=
  let headers := c.defaultHeaders.entries.map fun (name, value) =>
    "\"" ++ name.text ++ "\": " ++ value.quoted
  "FanoutClient \x7b client_name: " ++ Quoted.text c.name
    ++ ", request_timeout: " ++ c.requestTimeout.text
    ++ ", retry_policy: " ++ c.retryPolicy.describe
    ++ ", max_response_body_bytes: " ++ toString c.maxResponseBodyBytes
    ++ ", default_headers: \x7b" ++ ", ".intercalate headers ++ "\x7d"
    ++ ", interceptor: " ++ toString c.interceptor.isSome ++ " \x7d"

/-! ## §3 Building a client -/

/-- A client that is being told what to know. -/
structure ClientBuilder where
  config : Config
  defaultHeaders : Header.Map
  interceptor : Option Interceptor
  metricsEnabled : Bool

namespace ClientBuilder

def ofConfig (config : Config) : ClientBuilder :=
  ⟨config, Header.Map.empty, none, false⟩

/-- One thing to tell a client that is being built. -/
inductive Setting where
  /-- Any setting of the configuration. -/
  | config (s : Config.Setting)
  | replaceConfig (c : Config)
  | header (name : Header.Name) (value : Header.Value)
  /-- A default header by its texts, which may be refused. -/
  | defaultHeader (name value : String)
  | interceptor (i : Interceptor)
  | metrics (enabled : Bool)

/-- Read a header by its texts. -/
def readHeader (name value : String) : Except Error (Header.Name × Header.Value) :=
  match Header.Name.parse? name with
  | none => .error (.invalidHeaderName name)
  | some n =>
    match Header.Value.parse? value with
    | none => .error (.invalidHeaderValue n.text)
    | some v => .ok (n, v)

/-- The builder after one setting. -/
def apply (b : ClientBuilder) : Setting → Except Error ClientBuilder
  | .config s => .ok { b with config := b.config.apply s }
  | .replaceConfig c => .ok { b with config := c }
  | .header name value => .ok { b with defaultHeaders := b.defaultHeaders.insert name value }
  | .defaultHeader name value => do
    let (n, v) ← readHeader name value
    .ok { b with defaultHeaders := b.defaultHeaders.insert n v }
  | .interceptor i => .ok { b with interceptor := some i }
  | .metrics enabled => .ok { b with metricsEnabled := enabled }

/-- The builder after a list of settings, in order; the first refusal ends it. -/
def applyAll (b : ClientBuilder) (settings : List Setting) : Except Error ClientBuilder :=
  settings.foldlM apply b

def build (b : ClientBuilder) : Client where
  name := b.config.clientName
  requestTimeout := b.config.requestTimeout.longer minRequestTimeout
  retryPolicy := b.config.retryPolicy
  maxResponseBodyBytes := b.config.maxResponseBodyBytes
  defaultHeaders := b.defaultHeaders
  interceptor := b.interceptor
  metricsEnabled := b.metricsEnabled

end ClientBuilder

end Replicast
