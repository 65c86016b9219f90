import TriggerScript.Context
import TriggerScript.Node
import TriggerScript.Notice
import TriggerScript.Problem

/-!
# The journal

While it works the program consults its collaborators and writes notices to its log. A `Recorded`
value comes with all activity that led to it, oldest first. The activity stands beside the value and
never inside it, so that no collaborator can see it.
-/

namespace TriggerScript

/-- A question or an order to a collaborator, with what the collaborator was shown. -/
inductive Consultation where
  | event (text : String) (context : Context)
  | condition (text : String) (context : Context)
  | expression (text expected : String) (context : Context)
  | statement (text : String) (context : Context)
  | eventInfo (kind : String)
  | command (node : Node) (context : Context)
  | registerCommand (command : Command)
  | unregisterCommands (file : Path)
  | resolveAlias (text : String)
  | classInfo (name : String)
  | parseValue (text : String)
  | convert (value : Value) (target : ClassInfo)
  | getVariable (name : String)
  | setVariable (name : String) (value : Value)
  | subscribe (eventType : EventType)
  | read (path : Path)
  | register (hooks : Hooks) (trigger : Trigger)
  | unregister (hooks : Hooks) (trigger : Trigger)

inductive Activity where
  | consulted (consultation : Consultation)
  | noted (notice : Notice)

namespace Activity

def consultation? : Activity → Option Consultation
  | .consulted consultation => some consultation
  | .noted _ => none

def notice? : Activity → Option Notice
  | .consulted _ => none
  | .noted notice => some notice

end Activity

structure Recorded (α : Type) where
  value : α
  activity : List Activity := []

namespace Recorded

variable {α β : Type}

protected def pure (value : α) : Recorded α := { value }

protected def bind (first : Recorded α) (next : α → Recorded β) : Recorded β :=
  let second := next first.value
  ⟨second.value, first.activity ++ second.activity⟩

instance : Monad Recorded where
  pure := Recorded.pure
  bind := Recorded.bind

@[simp] theorem value_pure (value : α) : (pure value : Recorded α).value = value := rfl

@[simp] theorem activity_pure (value : α) : (pure value : Recorded α).activity = [] := rfl

@[simp] theorem value_bind (first : Recorded α) (next : α → Recorded β) :
    (first >>= next).value = (next first.value).value := rfl

@[simp] theorem activity_bind (first : Recorded α) (next : α → Recorded β) :
    (first >>= next).activity = first.activity ++ (next first.value).activity := rfl

@[simp] theorem value_map (change : α → β) (first : Recorded α) :
    (change <$> first).value = change first.value := rfl

@[simp] theorem activity_map (change : α → β) (first : Recorded α) :
    (change <$> first).activity = first.activity := List.append_nil _

theorem ext_iff {first second : Recorded α} :
    first = second ↔ first.value = second.value ∧ first.activity = second.activity := by
  cases first
  cases second
  simp

instance : LawfulMonad Recorded := LawfulMonad.mk' Recorded
  (fun first => by
    change Recorded.bind first (Recorded.pure ∘ id) = first
    cases first
    simp [Recorded.bind, Recorded.pure])
  (fun _ _ => rfl)
  (fun first second third => by
    change Recorded.bind (Recorded.bind first second) third =
      Recorded.bind first fun value => Recorded.bind (second value) third
    simp [Recorded.bind])

end Recorded

/-- Writes a notice to the log. -/
def note (notice : Notice) : Recorded Unit := ⟨(), [.noted notice]⟩

/-- Puts on record that a collaborator was consulted. -/
def consult (consultation : Consultation) : Recorded Unit := ⟨(), [.consulted consultation]⟩

@[simp] theorem value_note (notice : Notice) : (note notice).value = () := rfl

@[simp] theorem activity_note (notice : Notice) : (note notice).activity = [.noted notice] := rfl

@[simp] theorem value_consult (consultation : Consultation) : (consult consultation).value = () :=
  rfl

@[simp] theorem activity_consult (consultation : Consultation) :
    (consult consultation).activity = [.consulted consultation] := rfl

namespace Context

/-- Adds a diagnostic at the current line and writes it to the log. -/
def report (context : Context) (severity : Severity) (message : String) : Recorded Context := do
  let diagnostic := context.diagnosticOf severity message
  note (.reported diagnostic)
  pure (context.addDiagnostic diagnostic)

/-- Reports a problem as an error. -/
def fail (context : Context) (problem : Problem) : Recorded Context :=
  context.report .error problem.message

end Context

end TriggerScript
