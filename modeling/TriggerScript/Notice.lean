import TriggerScript.CompiledUnit
import TriggerScript.Diagnostic
import TriggerScript.Error
import TriggerScript.Text.Quoted
import TriggerScript.Value

/-!
# Notices

What the program writes to its log while it works. A notice is data; its level, its target and its
text are read off it in one place each.
-/

namespace TriggerScript

inductive Notice where
  | reported (diagnostic : Diagnostic)
  | eventHeader (text kind : String)
  | statement (depth : Nat) (source : String)
  | loopHeader (depth : Nat) (source : String)
  | whileHeader (depth : Nat) (source : String)
  | conditionHeader (depth : Nat) (source : String)
  | elseHeader (depth : Nat)
  | defaultVariable (name : String) (value : Value)
  | compiled (triggers commands : Nat) (file : Option Path)
  | cacheHit (artifact : Path) (triggers : Nat)
  | discarding (error : CacheError) (artifact : Path)
  | deleted (artifact : Path)
  | stored (artifact : Path)
  | recompiling (error : CacheError) (script : Path)
  | notCached (error : CacheError) (script : Path)
  | notDeleted (error : IoError) (artifact : Path)
  | installed (file : Path) (triggers commands : Nat)
  | subscribing (eventType : EventType)
  | subscriptionIgnored (eventType : EventType)
  | commandMismatch (file : Path) (expected unregistered : Nat)
  | countersClamped (file : Path)
  | loaded (path : Path) (triggers commands : Nat) (cached : Bool)
  | unloaded (path : Path) (triggers commands : Nat)
  | noErrors
  | noScripts
  | batchLoaded (info : ScriptInfo)

/-- How much a notice matters. -/
inductive NoticeLevel where
  | error
  | warn
  | info
  | debug
deriving DecidableEq, Repr

def NoticeLevel.text : NoticeLevel → String
  | .error => "ERROR"
  | .warn => "WARN"
  | .info => "INFO"
  | .debug => "DEBUG"

/-- A number of things, the noun in the plural unless there is one. -/
def counted (number : Nat) (noun : String) : String :=
  if number = 1 then toString number ++ " " ++ noun else toString number ++ " " ++ noun ++ "s"

/-- Four spaces for each level of nesting. -/
def indentation (depth : Nat) : String := String.ofList (List.replicate (4 * depth) ' ')

/-- A file that may be unknown, as the fields of a notice show it. -/
def shownFile : Option Path → String
  | some file => "Some(" ++ Text.quotedBytes file.bytes ++ ")"
  | none => "None"

namespace Notice

def level : Notice → NoticeLevel
  | .reported diagnostic => if diagnostic.isError then .error else .warn
  | .notCached .. | .notDeleted .. | .countersClamped _ | .noScripts => .warn
  | .noErrors | .batchLoaded _ => .info
  | _ => .debug

def target : Notice → String
  | .cacheHit .. | .discarding .. | .deleted _ | .stored _ | .recompiling .. | .notCached ..
  | .notDeleted .. => "script::cache"
  | .installed .. | .subscribing _ | .subscriptionIgnored _ | .commandMismatch ..
  | .countersClamped _ => "script::registry"
  | .loaded .. | .unloaded .. | .noErrors | .noScripts | .batchLoaded _ => "script::loader"
  | _ => "script"

def message : Notice → String
  | .reported diagnostic => diagnostic.message
  | .eventHeader text kind => text ++ " (" ++ kind ++ "):"
  | .statement depth source => indentation depth ++ source
  | .loopHeader depth source => indentation depth ++ "loop " ++ source ++ ":"
  | .whileHeader depth source => indentation depth ++ "while " ++ source ++ ":"
  | .conditionHeader depth source => indentation depth ++ source ++ ":"
  | .elseHeader depth => indentation depth ++ "else:"
  | .defaultVariable .. => "default variable"
  | .compiled triggers commands _ =>
    "loaded " ++ counted triggers "trigger" ++ " and " ++ counted commands "command"
  | .cacheHit .. => "cache hit"
  | .discarding error _ => "discarding: " ++ error.message
  | .deleted _ => "deleted"
  | .stored _ => "stored"
  | .recompiling error _ => "recompiling: " ++ error.message
  | .notCached error _ => "could not cache: " ++ error.message
  | .notDeleted error _ => "could not delete: " ++ error.message
  | .installed .. => "installed"
  | .subscribing _ => "subscribing"
  | .subscriptionIgnored _ => "subscription ignored"
  | .commandMismatch .. => "command count mismatch on unload"
  | .countersClamped _ => "load counters went negative; clamped to zero"
  | .loaded path triggers commands cached =>
    "loaded " ++ counted triggers "trigger" ++ " and " ++ counted commands "command" ++
      " from '" ++ path.text ++ "'" ++ (if cached then " (cached)" else "")
  | .unloaded path triggers commands =>
    "unloaded " ++ counted triggers "trigger" ++ " and " ++ counted commands "command" ++
      " from '" ++ path.text ++ "'"
  | .noErrors => "All scripts loaded without errors!"
  | .noScripts => "No scripts were found, maybe you should write some ;)"
  | .batchLoaded info =>
    "loaded " ++ counted info.files "script" ++ " with a total of " ++
      counted info.triggers "trigger" ++ " and " ++ counted info.commands "command"

/-- The fields that follow the message, with their names. -/
def fields : Notice → List (String × String)
  | .reported diagnostic =>
    [("file", shownFile diagnostic.file), ("line", toString diagnostic.line)]
  | .defaultVariable name value => [("variable", name), ("value", value.display)]
  | .compiled _ _ file => [("file", shownFile file)]
  | .cacheHit artifact triggers =>
    [("artifact", artifact.text), ("triggers", toString triggers)]
  | .discarding _ artifact | .deleted artifact | .stored artifact | .notDeleted _ artifact =>
    [("artifact", artifact.text)]
  | .recompiling _ script | .notCached _ script => [("script", script.text)]
  | .installed file triggers commands =>
    [("file", file.text), ("triggers", toString triggers), ("commands", toString commands)]
  | .subscribing eventType | .subscriptionIgnored eventType => [("event_type", eventType.name)]
  | .commandMismatch file expected unregistered =>
    [("file", file.text), ("expected", toString expected),
      ("unregistered", toString unregistered)]
  | .countersClamped file => [("file", file.text)]
  | _ => []

/-- The line of the log. -/
def text (notice : Notice) : String :=
  notice.level.text ++ " " ++ notice.target ++ ": " ++ notice.message ++
    String.join (notice.fields.map fun (name, value) => " " ++ name ++ "=" ++ value)

end Notice

end TriggerScript
