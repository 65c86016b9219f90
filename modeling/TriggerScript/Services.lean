import TriggerScript.Disk
import TriggerScript.Journal

/-!
# Collaborators

The compiler knows neither the language of statements nor the classes of values, and the loader
neither the host nor the reader of script texts. They are given to it. The grammar and the classes
answer questions; the commands and the reader also keep a state of their own, of the type `σ`.
-/

namespace TriggerScript

/-! ## Grammar -/

structure Grammar where
  parseEvent : String → Context → Except String (EventInfo × EventSpec)
  /-- The catalog of event kinds. -/
  eventInfo? : String → Option EventInfo
  parseCondition : String → Context → Except String Condition
  parseExpression : (text expected : String) → Context → Except String Expression
  parseStatement : String → Context → Except String Statement

namespace Grammar

def readEvent (grammar : Grammar) (text : String) (context : Context) :
    Recorded (Except String (EventInfo × EventSpec)) := do
  consult (.event text context)
  pure (grammar.parseEvent text context)

def readCondition (grammar : Grammar) (text : String) (context : Context) :
    Recorded (Except String Condition) := do
  consult (.condition text context)
  pure (grammar.parseCondition text context)

def readExpression (grammar : Grammar) (text expected : String) (context : Context) :
    Recorded (Except String Expression) := do
  consult (.expression text expected context)
  pure (grammar.parseExpression text expected context)

def readStatement (grammar : Grammar) (text : String) (context : Context) :
    Recorded (Except String Statement) := do
  consult (.statement text context)
  pure (grammar.parseStatement text context)

def lookUpEvent (grammar : Grammar) (kind : String) : Recorded (Option EventInfo) := do
  consult (.eventInfo kind)
  pure (grammar.eventInfo? kind)

end Grammar

/-! ## Classes -/

structure Classes where
  resolveAlias : String → Except String ItemType
  /-- The class that a user's word for it means. -/
  classInfo? : String → Option ClassInfo
  /-- The class of a value, which goes by the name of its class unless the registry knows better. -/
  classOf? : Value → Option ClassInfo := fun value => classInfo? value.className
  parseValue? : String → Option Value
  convert? : Value → ClassInfo → Option Value

namespace Classes

def readAlias (classes : Classes) (text : String) : Recorded (Except String ItemType) := do
  consult (.resolveAlias text)
  pure (classes.resolveAlias text)

def lookUp (classes : Classes) (name : String) : Recorded (Option ClassInfo) := do
  consult (.classInfo name)
  pure (classes.classInfo? name)

/-- The class of a value. On record this is a question about the name of its class. -/
def lookUpValue (classes : Classes) (value : Value) : Recorded (Option ClassInfo) := do
  consult (.classInfo value.className)
  pure (classes.classOf? value)

def readValue (classes : Classes) (text : String) : Recorded (Option Value) := do
  consult (.parseValue text)
  pure (classes.parseValue? text)

def turnInto (classes : Classes) (value : Value) (target : ClassInfo) : Recorded (Option Value) := do
  consult (.convert value target)
  pure (classes.convert? value target)

/-- Knows no alias and no class. -/
def unknown : Classes where
  resolveAlias text := .error ("unknown alias '" ++ text ++ "'")
  classInfo? _ := none
  parseValue? _ := none
  convert? _ _ := none

end Classes

/-! ## Commands -/

structure Commands (σ : Type) where
  /-- Compiles a command section and registers the command. -/
  compile : Node → Context → σ → Recorded (Except String Command × Context × σ)
  register : Command → σ → Except String Unit × σ
  /-- Removes the commands of a file and counts them. -/
  unregister : Path → σ → Nat × σ

namespace Commands

variable {σ : Type}

def compileSection (commands : Commands σ) (node : Node) (context : Context) (state : σ) :
    Recorded (Except String Command × Context × σ) := do
  consult (.command node context)
  commands.compile node context state

def enter (commands : Commands σ) (command : Command) (state : σ) :
    Recorded (Except String Unit × σ) := do
  consult (.registerCommand command)
  pure (commands.register command state)

def withdraw (commands : Commands σ) (file : Path) (state : σ) : Recorded (Nat × σ) := do
  consult (.unregisterCommands file)
  pure (commands.unregister file state)

/-- Accepts no command. -/
def unsupported : Commands σ where
  compile node context state :=
    pure (.error ("commands are not supported: '" ++ node.name ++ "'"), context, state)
  register command state :=
    (.error ("commands are not supported: '" ++ command.name ++ "'"), state)
  unregister _ state := (0, state)

end Commands

/-! ## Variables -/

/-- The value of a variable, asked for on record. -/
def getVariable (values : Variables) (name : String) : Recorded (Option Value) := do
  consult (.getVariable name)
  pure (values.find? name)

/-- Gives a variable a value, on record. -/
def setVariable (values : Variables) (name : String) (value : Value) : Recorded Variables := do
  consult (.setVariable name value)
  pure (values.insert name value)

/-! ## Host and reader -/

/-- The host delivers events. All that is seen of it here is what it notes about a subscription. -/
structure Host where
  noticesOn : EventType → List Notice

namespace Host

def subscribe (host : Host) (eventType : EventType) : Recorded Unit := do
  consult (.subscribe eventType)
  (host.noticesOn eventType).forM note

def silent : Host := ⟨fun _ => []⟩

/-- Accepts subscriptions and drops them. -/
def ignoring : Host := ⟨fun eventType => [.subscriptionIgnored eventType]⟩

end Host

/-- Turns a script file into its tree. Meanwhile the file may change. -/
structure Reader (σ : Type) where
  read : Path → Disk → σ → Except IoError Node × Disk × σ

namespace Reader

variable {σ : Type}

def readTree (reader : Reader σ) (path : Path) (disk : Disk) (state : σ) :
    Recorded (Except IoError Node × Disk × σ) := do
  consult (.read path)
  pure (reader.read path disk state)

/-- Reads the file once and leaves everything as it is. -/
def ofParser (parse : Bytes → Except IoError Node) : Reader σ where
  read path disk state := (disk.read path >>= parse, disk, state)

end Reader

/-! ## All of them -/

structure Services (σ : Type) where
  grammar : Grammar
  classes : Classes
  commands : Commands σ
  host : Host
  reader : Reader σ

/-- A grammar and a reader, with nothing else to turn to. -/
def Services.bare {σ : Type} (grammar : Grammar) (reader : Reader σ) : Services σ where
  grammar
  classes := .unknown
  commands := .unsupported
  host := .ignoring
  reader

end TriggerScript
