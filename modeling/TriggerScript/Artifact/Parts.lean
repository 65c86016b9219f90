import TriggerScript.CompiledUnit
import TriggerScript.Error

/-!
# The parts of a unit

What is stored of a unit, in the order in which it is written. The first part that has no stored form is
what keeps the unit from being stored.
-/

namespace TriggerScript

/-- Something in a unit on which it depends whether the unit can be stored. -/
inductive Part where
  | text (content : String)
  | path (file : Path)
  /-- The number of members of a list. -/
  | count (members : Nat)
  | foreign (object : ForeignObject)
deriving DecidableEq

namespace Part

/-- Why the part has no stored form, if it has none. -/
def obstacle? : Part → Option Obstacle
  | .text _ | .count _ => none
  | .path file => if (Text.ofBytes? file.bytes).isSome then none else some .brokenPath
  | .foreign _ => some .foreignObject

/-- The parts of a list: its length, and the parts of its members. -/
def ofList {α : Type} (parts : α → List Part) (members : List α) : List Part :=
  .count members.length :: members.flatMap parts

end Part

def Payload.parts : Payload → List Part
  | .none => []
  | .text content => [.text content]
  | .words content => Part.ofList (fun word => [.text word]) content
  | .foreign object => [.foreign object]

def Statement.parts (statement : Statement) : List Part := .text statement.source :: statement.payload.parts

def Condition.parts (condition : Condition) : List Part := .text condition.source :: condition.payload.parts

def Expression.parts (expression : Expression) : List Part :=
  .text expression.source :: .text expression.returnType :: expression.payload.parts

mutual

def Item.parts : Item → List Part
  | .statement statement => statement.parts
  | .conditional condition body => condition.parts ++ .count body.length :: Block.itemParts body
  | .choice condition body other =>
    condition.parts ++ .count body.length :: Block.itemParts body ++
      .count other.length :: Block.itemParts other
  | .loop iterable body => iterable.parts ++ .count body.length :: Block.itemParts body
  | .while condition body => condition.parts ++ .count body.length :: Block.itemParts body
termination_by structural item => item

/-- The parts of the items of a block, without their number. -/
def Block.itemParts : Block → List Part
  | [] => []
  | item :: rest => item.parts ++ Block.itemParts rest
termination_by structural block => block

end

def EventSpec.parts (spec : EventSpec) : List Part := .text spec.kind :: .text spec.text :: spec.payload.parts

def fileParts (file : Option Path) : List Part := file.toList.map .path

def Trigger.parts (trigger : Trigger) : List Part :=
  fileParts trigger.file ++ .text trigger.name :: trigger.event.parts ++
    .count trigger.body.length :: Block.itemParts trigger.body

def Command.parts (command : Command) : List Part :=
  .text command.name :: fileParts command.file ++ command.payload.parts

def CompiledUnit.parts (unit : CompiledUnit) : List Part :=
  Part.ofList Trigger.parts unit.triggers ++ Part.ofList Command.parts unit.commands

/-- What is reported to keep a unit from being stored. -/
def CompiledUnit.obstacle (unit : CompiledUnit) : Obstacle :=
  (unit.parts.findSome? Part.obstacle?).getD .foreignObject

end TriggerScript
