import TriggerScript.Event
import TriggerScript.Item
import TriggerScript.Path

/-!
# Compiled units

What one script compiles to: its triggers and its commands, in the order of the script.
-/

namespace TriggerScript

structure Trigger where
  file : Option Path
  name : String
  event : EventSpec
  body : Block
deriving DecidableEq, Inhabited

/-- Whether the trigger was compiled from a file. -/
def Trigger.isFrom (trigger : Trigger) (file : Path) : Bool :=
  match trigger.file with
  | some source => source.same file
  | none => false

structure Command where
  name : String
  file : Option Path
  payload : Payload
deriving DecidableEq, Repr, Inhabited

structure CompiledUnit where
  triggers : List Trigger := []
  commands : List Command := []
deriving DecidableEq, Inhabited

namespace CompiledUnit

/-- The triggers and commands of two units, one after the other. -/
def append (first second : CompiledUnit) : CompiledUnit where
  triggers := first.triggers ++ second.triggers
  commands := first.commands ++ second.commands

instance : Append CompiledUnit := ⟨append⟩

def ofTrigger? (trigger : Option Trigger) : CompiledUnit where
  triggers := trigger.toList

def ofCommand? (command : Option Command) : CompiledUnit where
  commands := command.toList

end CompiledUnit

/-- How many files, triggers and commands there are. -/
structure ScriptInfo where
  files : Nat := 0
  triggers : Nat := 0
  commands : Nat := 0
deriving DecidableEq, Repr, Inhabited

namespace ScriptInfo

/-- The counts of one loaded file. -/
def of (unit : CompiledUnit) : ScriptInfo := ⟨1, unit.triggers.length, unit.commands.length⟩

def add (left right : ScriptInfo) : ScriptInfo :=
  ⟨left.files + right.files, left.triggers + right.triggers, left.commands + right.commands⟩

instance : Add ScriptInfo := ⟨add⟩

/-- What is left of the counts; none falls below zero. -/
def subtract (left right : ScriptInfo) : ScriptInfo :=
  ⟨left.files - right.files, left.triggers - right.triggers, left.commands - right.commands⟩

/-- Whether the counts hold all that `part` counts. -/
def covers (whole part : ScriptInfo) : Bool :=
  part.files ≤ whole.files && part.triggers ≤ whole.triggers && part.commands ≤ whole.commands

end ScriptInfo

end TriggerScript
