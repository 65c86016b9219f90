import TriggerScript.Compile.Script
import TriggerScript.Rehearsal.Classes

/-!
# Commands, reader and all services to rehearse with

The desk is the state of the rehearsal's collaborators: the commands registered so far, and the edits
that wait for a script to be read.
-/

namespace TriggerScript.Rehearsal

/-- A new content for a file, put there right after its next reading. -/
structure Edit where
  path : Path
  content : Bytes
  modified : Int

structure Desk where
  commands : List (String × Option Path) := []
  edits : List Edit := []

instance : Inhabited Desk := ⟨{}⟩

/-- Makes an edit wait; it takes the place of one that waits for the same file. -/
def Desk.await (desk : Desk) (edit : Edit) : Desk :=
  { desk with edits := desk.edits.filter (fun other => !other.path.same edit.path) ++ [edit] }

/-! ## Commands -/

/-- The name of a command, from the header of its section. -/
def commandName (header : String) : String :=
  let name := ((Text.afterKeyword? "command " (Text.trim header)).getD "").toList
  String.ofList (((name.dropWhile (· = ' ')).reverse.dropWhile (· = ' ')).reverse)

/-- Some children of a command ask for a warning or an error. -/
def remark (node : Node) (context : Context) : Recorded Context :=
  let context := context.atLine node.lineNumber
  if startsWith node.name "warn " then
    context.report .warning (String.ofList (node.name.toList.drop 5))
  else if startsWith node.name "error " then
    context.report .error (String.ofList (node.name.toList.drop 6))
  else pure context

def remarks : List Node → Context → Recorded Context
  | [], context => pure context
  | node :: rest, context => do remarks rest (← remark node context)

/-- The file that a command is registered under. -/
def commandFile (name : String) (context : Context) : Option Path :=
  if startsWith name "/nofile" then none
  else if startsWith name "/foreign" then some ⟨"other.sk"⟩
  else context.file

/-- The payload of a command; one kind of command has its children compiled as a block. -/
def commandPayload (grammar : Grammar) (node : Node) (name : String) (context : Context) :
    Recorded (Payload × Context) := do
  if startsWith name "/body" then
    let (block, context) ← Compile.compileBlock grammar node context
    pure (.text (toString block.length ++ " " ++ context.delay.text), context)
  else pure (payloadOf name, context)

def register (refused : List String) (command : Command) (desk : Desk) : Except String Unit × Desk :=
  if refused.contains command.name then (.error "refused", desk)
  else (.ok (), { desk with commands := desk.commands ++ [(command.name, command.file)] })

def unregister (file : Path) (desk : Desk) : Nat × Desk :=
  let isOfFile := fun (entry : String × Option Path) => entry.2.any (·.same file)
  (desk.commands.countP isOfFile,
    { desk with commands := desk.commands.filter fun entry => !isOfFile entry })

def compileCommand (grammar : Grammar) (refused : List String) (node : Node) (context : Context)
    (desk : Desk) : Recorded (Except String Command × Context × Desk) := do
  let name := commandName node.name
  let context ← remarks node.children context
  if name = "" then pure (.error "missing command name", context, desk)
  else if startsWith name "bad" then pure (.error "", context, desk)
  else
    let file := commandFile name context
    let (payload, context) ← commandPayload grammar node name context
    let command : Command := ⟨name, file, payload⟩
    consult (.registerCommand command)
    match register refused command desk with
    | (.error reason, desk) => pure (.error reason, context, desk)
    | (.ok (), desk) => pure (.ok command, context, desk)

def commands (grammar : Grammar) (refused : List String) : Commands Desk where
  compile := compileCommand grammar refused
  register := register refused
  unregister := unregister

/-! ## Reader -/

/-- Reads a file with `parse`; then an edit that waits for this file takes place. -/
def reader (parse : Bytes → Except IoError Node) : Reader Desk where
  read path disk desk :=
    match disk.read path >>= parse with
    | .error error => (.error error, disk, desk)
    | .ok node =>
      match desk.edits.find? (·.path.same path) with
      | none => (.ok node, disk, desk)
      | some edit =>
        let edits := desk.edits.filter fun other => !other.path.same path
        match disk.place path edit.content edit.modified with
        | .ok disk => (.ok node, disk, { desk with edits })
        | .error _ => (.ok node, disk, { desk with edits })

/-! ## All services -/

/-- What a rehearsal can be told to do otherwise. -/
structure Setting where
  forgotten : List String := []
  refused : List String := []
  /-- Whether only the grammar and the reader take part. -/
  bare : Bool := false

def services (setting : Setting) (parse : Bytes → Except IoError Node) : Services Desk :=
  let grammar := grammar setting.forgotten
  if setting.bare then Services.bare grammar (reader parse)
  else
    { grammar
      classes
      commands := commands grammar setting.refused
      host := .silent
      reader := reader parse }

/-! ## What can be seen of a rehearsal -/

/-- Whether a collaborator that takes part was consulted. -/
def Setting.shows (setting : Setting) : Consultation → Bool
  | .event .. | .condition .. | .expression .. | .statement .. | .eventInfo _ | .read _
  | .register .. | .unregister .. => true
  | _ => !setting.bare

/-- The names of the triggers that run by the clock, after some activity. -/
def activeTimers : List String → List Activity → List String
  | active, [] => active
  | active, .consulted (.register _ trigger) :: rest =>
    activeTimers (active ++ [trigger.name]) rest
  | active, .consulted (.unregister _ trigger) :: rest =>
    activeTimers (active.erase trigger.name) rest
  | active, _ :: rest => activeTimers active rest

end TriggerScript.Rehearsal
