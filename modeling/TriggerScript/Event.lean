import TriggerScript.Payload

/-!
# Events

A trigger's header names an event kind. The catalog of kinds tells how a kind reaches its triggers:
through the dispatch table, under some event types, or by hooks of its own.
-/

namespace TriggerScript

/-- A type of event that the host delivers. -/
structure EventType where
  name : String
deriving DecidableEq, Repr, Inhabited

/-- Event types are ordered by their names. -/
def EventType.atMost (left right : EventType) : Bool := (compare left.name right.name).isLE

/-- A header as it was understood. -/
structure EventSpec where
  kind : String
  text : String
  payload : Payload
deriving DecidableEq, Repr, Inhabited

/-- Hooks through which a kind of event looks after its own triggers. -/
structure Hooks where
  name : String
deriving DecidableEq, Repr, Inhabited

/-- How the events of a kind reach their triggers. -/
inductive Delivery where
  | dispatched (types : List EventType)
  /-- Left to hooks. Event types may be listed too: they are at hand in a body, but nothing is bound. -/
  | selfManaged (hooks : Hooks) (types : List EventType := [])
deriving DecidableEq, Repr, Inhabited

/-- The catalog entry of an event kind. -/
structure EventInfo where
  kind : String
  delivery : Delivery
deriving DecidableEq, Repr, Inhabited

namespace EventInfo

def eventTypes (info : EventInfo) : List EventType :=
  match info.delivery with
  | .dispatched types => types
  | .selfManaged _ types => types

def isSelfManaging (info : EventInfo) : Bool :=
  match info.delivery with
  | .dispatched _ => false
  | .selfManaged _ _ => true

end EventInfo

/-- The event whose body is being compiled; a command's body has no header. -/
structure ActiveEvent where
  spec : Option EventSpec
  eventTypes : List EventType
deriving DecidableEq, Repr, Inhabited

namespace ActiveEvent

def trigger (spec : EventSpec) (eventTypes : List EventType) : ActiveEvent :=
  ⟨some spec, eventTypes⟩

/-- The event of a command's body. -/
def command : ActiveEvent := ⟨none, [⟨"command"⟩]⟩

/-- Whether values of an event type are at hand. -/
def provides (event : ActiveEvent) (typeName : String) : Bool :=
  event.eventTypes.any fun eventType => eventType.name = typeName

end ActiveEvent

end TriggerScript
