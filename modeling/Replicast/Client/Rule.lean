import Replicast.Client.Builder
/-!
# Rules for requests

An interceptor as a list of rules: each one sets or removes a header, or refuses the target, and may
be meant for the target of one index only.

## Overview

* `Rule` is one rule, and `Rule.apply` its effect on a request.
* `Rule.expand` fills in the placeholders of a header value.
* `Rule.interceptor` applies rules in order until one refuses.
-/

namespace Replicast

/-- What a rule does. -/
inductive Rule.Action where
  | refuse (e : Error)
  | remove (name : String)
  | set (name value : String)

structure Rule where
  /-- The index of the only target that it is meant for. -/
  index : Option Nat
  action : Rule.Action

namespace Rule

/-! ## §1 Placeholders -/

/-- What stands for what in a header value, in the order of replacement. -/
def placeholders (t : Target) (head : RequestHead) : List (String × String) :=
  [("index", toString t.index), ("base", t.baseUrl), ("method", head.method.name),
    ("uri", String.ofList head.uri.text), ("redacted", head.redactedUri)]

/-- Fill in the placeholders, which are names in braces. -/
def expand (t : Target) (head : RequestHead) (value : String) : String :=
  String.ofList <| (placeholders t head).foldl
    (fun text (name, meaning) =>
      Chars.replace ('\x7b' :: name.toList ++ ['\x7d']) meaning.toList text)
    value.toList

/-! ## §2 Effects -/

/-- Whether a rule is meant for a target. -/
def appliesTo (r : Rule) (t : Target) : Bool :=
  r.index.all (· == t.index)

/-- The effect of a rule on the headers of a request, or its refusal. -/
def apply (r : Rule) (t : Target) (head : RequestHead) : Except Error Header.Map :=
  match r.action with
  | .refuse e => .error e
  | .remove name => .ok ((Header.Name.parse? name).elim head.headers head.headers.erase)
  | .set name value =>
    match Header.Name.parse? name, Header.Value.parse? (expand t head value) with
    | none, _ => .error (.custom Error.badName)
    | some _, none => .error (.custom Error.badValue)
    | some n, some v => .ok (head.headers.insert n v)

def applyAll (t : Target) (head : RequestHead) : List Rule → Interception
  | [] => ⟨head, none⟩
  | r :: rest =>
    if r.appliesTo t then
      match r.apply t head with
      | .error e => ⟨head, some e⟩
      | .ok headers => applyAll t { head with headers } rest
    else applyAll t head rest

def interceptor (rules : List Rule) : Interceptor := fun t head => applyAll t head rules

end Rule

end Replicast
