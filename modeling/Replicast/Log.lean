/-!
# Log events

What a client tells about its work.  Events carry named fields; the events of one target stand in a
span that describes the target.
-/

namespace Replicast.Log

/-- The weight of an event. -/
inductive Level where
  | debug
  | info
  | warn
deriving DecidableEq, Repr

def Level.word : Level → String
  | debug => "DEBUG"
  | info => "INFO"
  | warn => "WARN"

/-- The value of a field. -/
inductive Value where
  | nat (n : Nat)
  | bool (b : Bool)
  | text (s : String)
deriving DecidableEq, Repr

/-- Named values. -/
abbrev Fields := List (String × Value)

/-- Something that happened. -/
structure Event where
  level : Level
  message : String
  fields : Fields
deriving DecidableEq, Repr

def debug (message : String) (fields : Fields) : Event := ⟨.debug, message, fields⟩

def info (message : String) (fields : Fields) : Event := ⟨.info, message, fields⟩

def warn (message : String) (fields : Fields) : Event := ⟨.warn, message, fields⟩

/-- A field that is there only when it has a value. -/
def optional (name : String) (value : Option Value) : Fields :=
  (value.map fun v => (name, v)).toList

end Replicast.Log
