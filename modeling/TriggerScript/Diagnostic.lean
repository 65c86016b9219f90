import TriggerScript.Path

/-!
# Diagnostics

A problem found in a script never stops a compilation: it is reported, and the line or section that
has it is left out.
-/

namespace TriggerScript

inductive Severity where
  | warning
  | error
deriving DecidableEq, Repr, Inhabited

def Severity.text : Severity → String
  | .warning => "warning"
  | .error => "error"

structure Diagnostic where
  severity : Severity
  message : String
  file : Option Path
  /-- The line of the problem; zero when it belongs to no line. -/
  line : Nat
deriving DecidableEq, Repr, Inhabited

namespace Diagnostic

def isError (diagnostic : Diagnostic) : Bool := diagnostic.severity = .error

/-- Where the problem is, in brackets; nothing when neither file nor line is known. -/
def place (diagnostic : Diagnostic) : String :=
  match diagnostic.file, diagnostic.line with
  | some file, 0 => " (" ++ file.text ++ ")"
  | some file, line => " (" ++ file.text ++ ", line " ++ toString line ++ ")"
  | none, 0 => ""
  | none, line => " (line " ++ toString line ++ ")"

def text (diagnostic : Diagnostic) : String :=
  diagnostic.severity.text ++ ": " ++ diagnostic.message ++ diagnostic.place

/-- An error of a whole file. -/
def ofFile (file : Path) (message : String) : Diagnostic := ⟨.error, message, some file, 0⟩

end Diagnostic

/-- How many of some diagnostics are errors. -/
def errorCount (diagnostics : List Diagnostic) : Nat := diagnostics.countP (·.isError)

end TriggerScript
