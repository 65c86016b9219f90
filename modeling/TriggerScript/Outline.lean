import TriggerScript.CompiledUnit
import TriggerScript.Text.Quoted

/-!
# Outlines

The structure of compiled values written out on one line, with the name of every part.
-/

namespace TriggerScript.Outline

open Text (quoted)

/-- Some texts in square brackets. -/
def listed (texts : List String) : String := "[" ++ ", ".intercalate texts ++ "]"

/-- The named parts of a value, in braces. -/
def parts (name : String) (fields : List (String × String)) : String :=
  let shown := fields.map fun (field, text) => field ++ ": " ++ text
  name ++ " \x7b " ++ ", ".intercalate shown ++ " \x7d"

def truth (value : Bool) : String := if value then "true" else "false"

def ofPayload : Payload → String
  | .none => "None"
  | .text text => "Text(" ++ quoted text ++ ")"
  | .words words => "Words(" ++ listed (words.map quoted) ++ ")"
  | .foreign _ => "Opaque(..)"

def ofStatement (statement : Statement) : String :=
  parts "Statement" [("source", quoted statement.source), ("suspends", truth statement.suspends),
    ("payload", ofPayload statement.payload)]

def ofCondition (condition : Condition) : String :=
  parts "Condition" [("source", quoted condition.source), ("payload", ofPayload condition.payload)]

def ofExpression (expression : Expression) : String :=
  parts "Expression" [("source", quoted expression.source), ("single", truth expression.single),
    ("return_type", quoted expression.returnType), ("payload", ofPayload expression.payload)]

mutual

def ofItem : Item → String
  | .statement statement => "Statement(" ++ ofStatement statement ++ ")"
  | .conditional condition body =>
    parts "Conditional" [("condition", ofCondition condition),
      ("then_block", listed (ofItems body)), ("else_block", "None")]
  | .choice condition body other =>
    parts "Conditional" [("condition", ofCondition condition),
      ("then_block", listed (ofItems body)),
      ("else_block", "Some(" ++ listed (ofItems other) ++ ")")]
  | .loop iterable body =>
    parts "Loop" [("iterable", ofExpression iterable), ("body", listed (ofItems body))]
  | .while condition body =>
    parts "While" [("condition", ofCondition condition), ("body", listed (ofItems body))]
termination_by structural item => item

def ofItems : Block → List String
  | [] => []
  | item :: rest => ofItem item :: ofItems rest
termination_by structural block => block

end

def ofBlock (block : Block) : String := listed (ofItems block)

/-- The outline of every item in its place: all but the last have a next one. -/
def ofChain : Block → List String
  | [] => []
  | item :: rest =>
    parts "TriggerItem" [("kind", ofItem item), ("has_next", truth !rest.isEmpty)] :: ofChain rest

def ofFile : Option Path → String
  | some file => "Some(" ++ Text.quotedBytes file.bytes ++ ")"
  | none => "None"

def ofSpec (spec : EventSpec) : String :=
  parts "EventSpec" [("kind", quoted spec.kind), ("text", quoted spec.text),
    ("payload", ofPayload spec.payload)]

def ofTrigger (trigger : Trigger) : String :=
  parts "Trigger" [("file", ofFile trigger.file), ("name", quoted trigger.name),
    ("event", ofSpec trigger.event), ("body", ofBlock trigger.body)]

def ofEventType (eventType : EventType) : String := "EventType(" ++ quoted eventType.name ++ ")"

def ofEventInfo (info : EventInfo) : String :=
  parts "EventInfo" [("kind", quoted info.kind),
    ("event_types", listed (info.eventTypes.map ofEventType)),
    ("self_managing", truth info.isSelfManaging)]

end TriggerScript.Outline
