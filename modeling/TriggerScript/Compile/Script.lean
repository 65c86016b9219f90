import TriggerScript.Compile.Block
import TriggerScript.Compile.Variables
import TriggerScript.Text.Lowercase

/-!
# Compiling a script

The top-level sections of a script are special tables, commands and event triggers. They are taken
in the order in which they stand; a section with a problem is reported and left out.
-/

namespace TriggerScript.Compile

variable {σ : Type}

/-- What changes while a script is compiled. -/
structure Session (σ : Type) where
  context : Context
  /-- The values of the variables. -/
  values : Variables
  /-- The collaborators' own state. -/
  state : σ

def Session.withContext (session : Session σ) (context : Context) : Session σ :=
  { session with context }

/-! ## Kinds of sections -/

inductive SectionKind where
  | aliases
  | options
  /-- A table of default variables. -/
  | defaults
  | unbalanced
  | command
  | event
deriving DecidableEq, Repr

/-- What a top-level section is, by its trimmed header. -/
def SectionKind.of (header : String) : SectionKind :=
  if Text.isKeyword "aliases" header then .aliases
  else if Text.isKeyword "options" header then .options
  else if Text.isKeyword "variables" header then .defaults
  else if header.toList.count '"' % 2 ≠ 0 then .unbalanced
  else if (Text.afterKeyword? "command " header).isSome then .command
  else .event

/-! ## Tables -/

def compileAlias (classes : Classes) (node : Node) (context : Context) : Recorded Context := do
  let context := context.atLine node.lineNumber
  match node.asEntry? "=" with
  | none => context.fail .aliasLine
  | some (key, value) =>
    match ← classes.readAlias value with
    | .error reason => context.fail (.refused reason)
    | .ok itemType =>
      pure { context with aliases := context.aliases.insert (Text.lowercase key) itemType }

def compileAliases (classes : Classes) : List Node → Context → Recorded Context
  | [], context => pure context
  | node :: rest, context => do compileAliases classes rest (← compileAlias classes node context)

def compileOption (node : Node) (context : Context) : Recorded Context :=
  let context := context.atLine node.lineNumber
  match node.asEntry? ":" with
  | none => context.fail .optionLine
  | some (key, value) => pure { context with options := context.options.insert key value }

def compileOptions : List Node → Context → Recorded Context
  | [], context => pure context
  | node :: rest, context => do compileOptions rest (← compileOption node context)

/-! ## Triggers and commands -/

/-- Compiles an event section: its header names the event, its children are the body. -/
def compileEvent (grammar : Grammar) (node : Node) (context : Context) :
    Recorded (Option Trigger × Context) := do
  let header := Text.trim node.name
  let (text, context) ←
    Options.substitute ((Text.afterKeyword? "on " header).getD header) context
  match text with
  | none => pure (none, context)
  | some text =>
    match ← grammar.readEvent text context with
    | .error reason =>
      let context ← context.fail (.notUnderstood .event header reason)
      pure (none, context)
    | .ok (info, spec) =>
      note (.eventHeader text spec.kind)
      let inside := (context.withEvent (some (.trigger spec info.eventTypes))).withDelay .no
      let (body, after) ← compileBlock grammar node inside
      pure (some ⟨after.file, header, spec, body⟩, (after.withEvent none).withDelay .no)

/-- Compiles a command section, as the event of a command. -/
def compileCommand (commands : Commands σ) (node : Node) (session : Session σ) :
    Recorded (Option Command × Session σ) := do
  let inside := session.context.withEvent (some .command)
  let (result, after, state) ← commands.compileSection node inside session.state
  let context := after.withEvent none
  match result with
  | .ok command =>
    let file := command.file <|> context.file
    pure (some { command with file }, { session with context, state })
  | .error reason =>
    let context ← (context.atLine node.lineNumber).fail (.refused reason)
    pure (none, { session with context, state })

/-! ## Whole scripts -/

def compileSection (services : Services σ) (node : Node) (session : Session σ) :
    Recorded (CompiledUnit × Session σ) := do
  let context := session.context
  match SectionKind.of (Text.trim node.name) with
  | .aliases =>
    let context ← compileAliases services.classes node.children context
    pure ({}, session.withContext context)
  | .options =>
    let context ← compileOptions node.children context
    pure ({}, session.withContext context)
  | .defaults =>
    let (context, values) ←
      compileVariables services.classes node.children context session.values
    pure ({}, { session with context, values })
  | .unbalanced =>
    let context ← context.fail .unbalancedQuotes
    pure ({}, session.withContext context)
  | .command =>
    let (command, session) ← compileCommand services.commands node session
    pure (.ofCommand? command, session)
  | .event =>
    let (trigger, context) ← compileEvent services.grammar node context
    pure (.ofTrigger? trigger, session.withContext context)

/-- Compiles a top-level node; only sections can stand there. -/
def compileTopLevel (services : Services σ) (node : Node) (session : Session σ) :
    Recorded (CompiledUnit × Session σ) := do
  let session := session.withContext (session.context.atLine node.lineNumber)
  if node.isSection then compileSection services node session
  else
    let context ← session.context.fail .codeOutsideTrigger
    pure ({}, session.withContext context)

def compileAll (services : Services σ) :
    List Node → Session σ → Recorded (CompiledUnit × Session σ)
  | [], session => pure ({}, session)
  | node :: rest, session => do
    let (first, session) ← compileTopLevel services node session
    let (others, session) ← compileAll services rest session
    pure (first ++ others, session)

/-- Compiles a script. The tables of an earlier script are forgotten first. -/
def compileScript (services : Services σ) (root : Node) (session : Session σ) :
    Recorded (CompiledUnit × Session σ) := do
  let context := { session.context with aliases := {}, options := {} }
  let (unit, session) ← compileAll services root.children (session.withContext context)
  note (.compiled unit.triggers.length unit.commands.length session.context.file)
  pure (unit, session)

/-- Compiles the script of a file in a context of its own. -/
def compileFile (services : Services σ) (file : Path) (root : Node) (values : Variables)
    (state : σ) : Recorded (CompiledUnit × Session σ) :=
  compileScript services root ⟨.ofFile (some file), values, state⟩

/-- Compiles a single event section that belongs to no file. -/
def compileTrigger (grammar : Grammar) (node : Node) : Recorded (Option Trigger × Context) :=
  compileEvent grammar node ((Context.ofFile none).atLine node.lineNumber)

end TriggerScript.Compile
