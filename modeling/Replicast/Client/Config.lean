import Replicast.Retry
import Replicast.Text.Quoted
/-!
# Client configuration

## Overview

* `Config` holds what a client can be told; its fields may be set to any value directly.
* `Config.apply` is the effect of one setting.  The settings keep the request timeout at one
  millisecond or more and the body limit at one byte or more; the two direct assignments do not.
-/

namespace Replicast

/-- The shortest timeout of a request. -/
def minRequestTimeout : Duration := Duration.ofMillis 1

/-- What a client can be told. -/
structure Config where
  /-- The deadline of a batch, retries and pauses included. -/
  requestTimeout : Duration
  retryPolicy : RetryPolicy
  connectTimeout : Duration
  poolIdleTimeout : Duration
  poolMaxIdlePerHost : Nat
  maxResponseBodyBytes : Nat
  clientName : String
deriving DecidableEq, Repr

namespace Config

/-- The configuration of a client that was told nothing. -/
def standard : Config where
  requestTimeout := Duration.ofSeconds 30
  retryPolicy := RetryPolicy.standard
  connectTimeout := Duration.ofSeconds 5
  poolIdleTimeout := Duration.ofSeconds 90
  poolMaxIdlePerHost := 8
  maxResponseBodyBytes := 8 * 1024 * 1024
  clientName := "quorum-http"

/-- One thing to tell a client. -/
inductive Setting where
  | requestTimeout (d : Duration)
  | retryPolicy (p : RetryPolicy)
  | connectTimeout (d : Duration)
  | poolIdleTimeout (d : Duration)
  | poolMaxIdlePerHost (n : Nat)
  | maxResponseBodyBytes (n : Nat)
  | clientName (name : String)
  /-- Assign the timeout as it is. -/
  | rawRequestTimeout (d : Duration)
  /-- Assign the body limit as it is. -/
  | rawMaxResponseBodyBytes (n : Nat)
deriving DecidableEq, Repr

def apply (c : Config) : Setting → Config
  | .requestTimeout d => { c with requestTimeout := d.longer minRequestTimeout }
  | .retryPolicy p => { c with retryPolicy := p }
  | .connectTimeout d => { c with connectTimeout := d }
  | .poolIdleTimeout d => { c with poolIdleTimeout := d }
  | .poolMaxIdlePerHost n => { c with poolMaxIdlePerHost := n }
  | .maxResponseBodyBytes n => { c with maxResponseBodyBytes := Nat.max n 1 }
  | .clientName name => { c with clientName := name }
  | .rawRequestTimeout d => { c with requestTimeout := d }
  | .rawMaxResponseBodyBytes n => { c with maxResponseBodyBytes := n }

/-- The configuration after a list of settings, in order. -/
def applyAll (c : Config) (settings : List Setting) : Config :=
  settings.foldl apply c

/-- The configurations after each of a list of settings, the first one before any. -/
def history (c : Config) : List Setting → List Config
  | [] => [c]
  | s :: rest => c :: history (c.apply s) rest

def describe (c : Config) : String :=
  "FanoutConfig \x7b request_timeout: " ++ c.requestTimeout.text
    ++ ", retry_policy: " ++ c.retryPolicy.describe
    ++ ", connect_timeout: " ++ c.connectTimeout.text
    ++ ", pool_idle_timeout: " ++ c.poolIdleTimeout.text
    ++ ", pool_max_idle_per_host: " ++ toString c.poolMaxIdlePerHost
    ++ ", max_response_body_bytes: " ++ toString c.maxResponseBodyBytes
    ++ ", client_name: " ++ Quoted.text c.clientName ++ " \x7d"

end Config

end Replicast
