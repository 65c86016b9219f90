import TriggerScript.Services

/-!
# The registry

The registry holds all loaded scripts: how many files, triggers and commands there are, in all and
file by file; which triggers are bound to which event types, in the order in which they were bound;
which triggers are left to hooks; and the event types that the host has been asked for.
-/

namespace TriggerScript

structure Registry where
  loaded : ScriptInfo := {}
  /-- The counts of each loaded file. A file is known by the components of its path. -/
  files : Table (List Path.Component) ScriptInfo := {}
  /-- The triggers of each event type, in the order in which they were bound. -/
  dispatch : Table EventType (List Trigger) := {}
  selfManaged : List (Hooks × Trigger) := []
  subscribed : List EventType := []

namespace Registry

variable {σ : Type}

instance : Inhabited Registry := ⟨{}⟩

/-! ## Questions -/

/-- The triggers of an event type, in the order in which they were bound. -/
def triggersFor (registry : Registry) (eventType : EventType) : List Trigger :=
  (registry.dispatch.find? eventType).getD []

/-- The triggers that are left to hooks. -/
def selfRegistered (registry : Registry) : List Trigger := registry.selfManaged.map (·.2)

def isLoaded (registry : Registry) (file : Path) : Bool := registry.files.contains file.components

def isSubscribed (registry : Registry) (eventType : EventType) : Bool :=
  registry.subscribed.contains eventType

/-! ## Binding -/

/-- The catalog entries of some triggers; a kind that the catalog lacks ends the search. -/
def resolve (grammar : Grammar) : List Trigger → Recorded (Except CacheError (List EventInfo))
  | [] => pure (.ok [])
  | trigger :: rest => do
    match ← grammar.lookUpEvent trigger.event.kind with
    | none => pure (.error (.unknownEvent trigger.name trigger.event.kind))
    | some info =>
      match ← resolve grammar rest with
      | .error error => pure (.error error)
      | .ok infos => pure (.ok (info :: infos))

/-- The bindings that a catalog entry gives a trigger. -/
def bindingsOf (trigger : Trigger) (info : EventInfo) : List (EventType × Trigger) :=
  match info.delivery with
  | .dispatched types => types.map fun eventType => (eventType, trigger)
  | .selfManaged _ _ => []

/-- The hooks that a catalog entry leaves a trigger to. -/
def hooksOf (trigger : Trigger) (info : EventInfo) : List (Hooks × Trigger) :=
  match info.delivery with
  | .dispatched _ => []
  | .selfManaged hooks _ => [(hooks, trigger)]

/-- Adds a trigger at the end of its event type's list. -/
def enlist (dispatch : Table EventType (List Trigger)) (binding : EventType × Trigger) :
    Table EventType (List Trigger) :=
  dispatch.insert binding.1 ((dispatch.find? binding.1).getD [] ++ [binding.2])

/-- The triggers with their catalog entries; what has no partner is not bound. -/
def bound (triggers : List Trigger) (infos : List EventInfo) : List (Trigger × EventInfo) :=
  triggers.zip infos

def fileInfo (registry : Registry) (file : Path) : ScriptInfo :=
  (registry.files.find? file.components).getD {}

/-- The registry with the triggers of a file's unit bound and the file counted. -/
def afterInstall (registry : Registry) (file : Path) (unit : CompiledUnit)
    (infos : List EventInfo) : Registry :=
  let pairs := bound unit.triggers infos
  { registry with
    loaded := registry.loaded + ScriptInfo.of unit
    files := registry.files.insert file.components (registry.fileInfo file + ScriptInfo.of unit)
    dispatch :=
      (pairs.flatMap fun (trigger, info) => bindingsOf trigger info).foldl enlist registry.dispatch
    selfManaged :=
      registry.selfManaged ++ pairs.flatMap fun (trigger, info) => hooksOf trigger info }

/-- Binds the triggers of a file's unit, counts the file, and tells the hooks. -/
def install (registry : Registry) (file : Path) (unit : CompiledUnit) (infos : List EventInfo) :
    Recorded (ScriptInfo × Registry) := do
  let info := ScriptInfo.of unit
  let hooked := (bound unit.triggers infos).flatMap fun (trigger, info) => hooksOf trigger info
  hooked.forM fun (hooks, trigger) => consult (.register hooks trigger)
  note (.installed file info.triggers info.commands)
  pure (info, registry.afterInstall file unit infos)

/-! ## Subscribing -/

/-- The event types with triggers that the host has not been asked for, in order. -/
def unsubscribed (registry : Registry) : List EventType :=
  (registry.dispatch.keys.filter fun eventType => !registry.isSubscribed eventType).mergeSort
    EventType.atMost

/-- Asks the host once for every event type that has triggers. -/
def subscribe (registry : Registry) (host : Host) : Recorded (List EventType × Registry) := do
  let fresh := registry.unsubscribed
  fresh.forM fun eventType => do
    note (.subscribing eventType)
    host.subscribe eventType
  pure (fresh, { registry with subscribed := registry.subscribed ++ fresh })

/-! ## Unloading -/

/-- The list itself, if anything is in it. -/
def nonempty? {α : Type} (list : List α) : Option (List α) :=
  if list.isEmpty then none else some list

/-- The triggers of a list that did not come from a file; a list with none left is given up. -/
def withoutFile? (file : Path) (triggers : List Trigger) : Option (List Trigger) :=
  nonempty? (triggers.filter fun trigger => !trigger.isFrom file)

/-- The registry without all that came from a file. -/
def afterUnload (registry : Registry) (file : Path) : Registry :=
  { registry with
    loaded := registry.loaded.subtract (registry.fileInfo file)
    files := registry.files.erase file.components
    dispatch := registry.dispatch.update (withoutFile? file)
    selfManaged := registry.selfManaged.filter fun (_, trigger) => !trigger.isFrom file }

/-- Removes all that came from a file, its commands included, and tells the hooks. -/
def unload (registry : Registry) (file : Path) (commands : Commands σ) (state : σ) :
    Recorded (ScriptInfo × Registry × σ) := do
  let removed := registry.fileInfo file
  let unhooked := registry.selfManaged.filter fun (_, trigger) => trigger.isFrom file
  if !registry.loaded.covers removed then note (.countersClamped file)
  unhooked.forM fun (hooks, trigger) => consult (.unregister hooks trigger)
  let (unregistered, state) ← commands.withdraw file state
  if unregistered ≠ removed.commands then
    note (.commandMismatch file removed.commands unregistered)
  pure (removed, registry.afterUnload file, state)

end Registry

end TriggerScript
