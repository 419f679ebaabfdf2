import Replicast.Text.Quoted
/-!
# Targets

One replica of a batch: its position in the list of peers and its base URL.
-/

namespace Replicast

/-- A replica endpoint. -/
structure Target where
  /-- The position in the list of peers. -/
  index : Nat
  /-- The URL that request paths are joined to. -/
  baseUrl : String
deriving DecidableEq, Repr

namespace Target

/-- A target in a message. -/
def label (t : Target) : String :=
  "#" ++ toString t.index ++ " " ++ t.baseUrl

def describe (t : Target) : String :=
  "EndpointTarget \x7b index: " ++ toString t.index ++ ", base_url: " ++ Quoted.text t.baseUrl
    ++ " \x7d"

/-- The distinct targets of a list, each at its first place. -/
def distinct (targets : List Target) : List Target :=
  targets.eraseDups

end Target

end Replicast
