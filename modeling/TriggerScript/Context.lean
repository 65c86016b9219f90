import TriggerScript.Delay
import TriggerScript.Diagnostic
import TriggerScript.Event
import TriggerScript.Value

/-!
# The context of a compilation

All that is known while a script is compiled: the file, the event whose body is at hand, whether the
code has been suspended, the tables of the script, the place reached, and the problems found so far.
-/

namespace TriggerScript

structure Context where
  file : Option Path := none
  event : Option ActiveEvent := none
  delay : Delay := .no
  /-- The replacement text of each option. -/
  options : Table String String := {}
  /-- The item type of each alias; the names are in lower case. -/
  aliases : Table String ItemType := {}
  depth : Nat := 0
  line : Nat := 0
  diagnostics : List Diagnostic := []

namespace Context

instance : Inhabited Context := ⟨{}⟩

def ofFile (file : Option Path) : Context := { file }

def atLine (context : Context) (line : Nat) : Context := { context with line }

def withDelay (context : Context) (delay : Delay) : Context := { context with delay }

def withEvent (context : Context) (event : Option ActiveEvent) : Context := { context with event }

def enterBlock (context : Context) : Context := { context with depth := context.depth + 1 }

def leaveBlock (context : Context) : Context := { context with depth := context.depth - 1 }

/-- The diagnostic of a problem at the current line. -/
def diagnosticOf (context : Context) (severity : Severity) (message : String) : Diagnostic :=
  ⟨severity, message, context.file, context.line⟩

def addDiagnostic (context : Context) (diagnostic : Diagnostic) : Context :=
  { context with diagnostics := context.diagnostics ++ [diagnostic] }

def errorCount (context : Context) : Nat := TriggerScript.errorCount context.diagnostics

end Context

end TriggerScript
