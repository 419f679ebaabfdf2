import Replicast.Header.Basic
/-!
# Header maps

A header map holds one or more values under each name, names in the order in which they were first
set.

## Overview

* `Map.insert` sets a name to one value and forgets the others; `Map.append` adds a value.
* `Map.rebuilt` builds the same map again, pair by pair.
* `Map.values` is the view that the laws below are stated through: the values of one name, in order.
* `merge` lays the headers of one request over the defaults of a client, and `keepAlive` fixes the
  connection header.
-/

namespace Replicast.Header

structure Map where
  /-- Name and value pairs; pairs of one name stand together. -/
  entries : List (Name × Value)
deriving DecidableEq, Repr

namespace Map

/-! ## §1 Operations -/

def empty : Map := ⟨[]⟩

/-- The values of a name, in order. -/
def values (m : Map) (name : Name) : List Value :=
  (m.entries.filter (·.1 == name)).map (·.2)

def contains (m : Map) (name : Name) : Bool :=
  m.entries.any (·.1 == name)

def erase (m : Map) (name : Name) : Map :=
  ⟨m.entries.filter (·.1 != name)⟩

/-- Put a pair in the place of the first entry of its name and drop the further ones. -/
def replaceFirst (name : Name) (value : Value) : List (Name × Value) → List (Name × Value)
  | [] => [(name, value)]
  | entry :: rest =>
    if entry.1 == name then (name, value) :: rest.filter (·.1 != name)
    else entry :: replaceFirst name value rest

/-- Set a name to a single value. -/
def insert (m : Map) (name : Name) (value : Value) : Map :=
  ⟨replaceFirst name value m.entries⟩

/-- Put a pair behind the last entry of its name, or at the end. -/
def addLast (name : Name) (value : Value) : List (Name × Value) → List (Name × Value)
  | [] => [(name, value)]
  | entry :: rest =>
    if entry.1 == name && !rest.any (·.1 == name) then entry :: (name, value) :: rest
    else entry :: addLast name value rest

/-- Add a value to a name. -/
def append (m : Map) (name : Name) (value : Value) : Map :=
  ⟨addLast name value m.entries⟩

/-- Set each pair in turn, so that the last value of a name stays. -/
def insertAll (m : Map) (pairs : List (Name × Value)) : Map :=
  pairs.foldl (fun m (name, value) => m.insert name value) m

/-- Add each pair in turn. -/
def appendAll (m : Map) (pairs : List (Name × Value)) : Map :=
  pairs.foldl (fun m (name, value) => m.append name value) m

/-- A map that is built anew from the pairs of another one. -/
def rebuilt (m : Map) : Map :=
  empty.appendAll m.entries

end Map

/-! ## §2 The headers of a dispatched request -/

/-- The headers of a request over the defaults of its client: a name that the request sets hides
    the default. -/
def merge (defaults request : Map) : Map :=
  defaults.insertAll request.entries

/-- Connections are always kept alive. -/
def keepAlive (m : Map) : Map :=
  m.insert Name.connection Value.keepAlive

end Replicast.Header
