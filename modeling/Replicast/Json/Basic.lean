import Replicast.Decimal.Double
/-!
# JSON documents

## Overview

* `Json` is a document.  Numbers are integers of sixty-four bits, signed or unsigned, or doubles.
* Objects keep their fields in the order of their names; setting a field again replaces it.
-/

namespace Replicast

inductive Json.Number where
  | int (value : Int)
  | float (value : Double)
deriving DecidableEq, Repr

inductive Json where
  | null
  | bool (value : Bool)
  | number (value : Json.Number)
  | string (value : String)
  | array (items : List Json)
  | object (fields : List (String × Json))
deriving Repr

namespace Json

def nat (n : Nat) : Json := .number (.int n)

/-- Set a field of an object whose fields are sorted by name. -/
def setField (name : String) (value : Json) : List (String × Json) → List (String × Json)
  | [] => [(name, value)]
  | field :: rest =>
    if name < field.1 then (name, value) :: field :: rest
    else if name == field.1 then (name, value) :: rest
    else field :: setField name value rest

/-- An object from its fields; the last field of a name counts. -/
def ofFields (fields : List (String × Json)) : Json :=
  .object (fields.foldl (fun sorted (name, value) => setField name value sorted) [])

def field? : Json → String → Option Json
  | .object fields, name => (fields.find? (·.1 == name)).map (·.2)
  | _, _ => none

end Json

end Replicast
