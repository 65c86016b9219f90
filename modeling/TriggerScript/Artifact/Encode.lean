import TriggerScript.Artifact.Word
import TriggerScript.CompiledUnit

/-!
# Writing artifacts

An artifact is a stamp followed by a unit. Lengths take eight bytes, variants four, presence and truth
one; a structure is its parts in order. A foreign object cannot be written, nor a path that is no text,
nor a length that eight bytes do not hold, nor can anything that has one of them in it.
-/

namespace TriggerScript.Artifact

def encodeLength? (length : Nat) : Option Bytes :=
  if length < UInt64.size then some (littleEndian 8 length) else none

def encodeVariant (index : Nat) : Bytes := littleEndian 4 index

def encodeTruth (value : Bool) : Bytes := [if value then 1 else 0]

def encodeText? (text : String) : Option Bytes := do
  let bytes := Text.toBytes text
  let length ← encodeLength? bytes.length
  pure (length ++ bytes)

def encodeFile? : Option Path → Option Bytes
  | none => some [0]
  | some file => do
    let spelled ← Text.ofBytes? file.bytes
    let text ← encodeText? spelled
    pure (1 :: text)

/-- A sequence: its length, then its members one after the other. -/
def encodeSequence? {α : Type} (encode : α → Option Bytes) (members : List α) : Option Bytes := do
  let length ← encodeLength? members.length
  let encoded ← members.mapM encode
  pure (length ++ encoded.flatten)

def encodePayload? : Payload → Option Bytes
  | .none => some (encodeVariant 0)
  | .text text => do
    let text ← encodeText? text
    pure (encodeVariant 1 ++ text)
  | .words words => do
    let words ← encodeSequence? encodeText? words
    pure (encodeVariant 2 ++ words)
  | .foreign _ => none

def encodeStatement? (statement : Statement) : Option Bytes := do
  let source ← encodeText? statement.source
  let payload ← encodePayload? statement.payload
  pure (source ++ encodeTruth statement.suspends ++ payload)

def encodeCondition? (condition : Condition) : Option Bytes := do
  let source ← encodeText? condition.source
  let payload ← encodePayload? condition.payload
  pure (source ++ payload)

def encodeExpression? (expression : Expression) : Option Bytes := do
  let source ← encodeText? expression.source
  let returnType ← encodeText? expression.returnType
  let payload ← encodePayload? expression.payload
  pure (source ++ encodeTruth expression.single ++ returnType ++ payload)

mutual

def encodeItem? : Item → Option Bytes
  | .statement statement => do
    let statement ← encodeStatement? statement
    pure (encodeVariant 0 ++ statement)
  | .conditional condition body => do
    let condition ← encodeCondition? condition
    let length ← encodeLength? body.length
    let items ← encodeItems? body
    pure (encodeVariant 1 ++ condition ++ length ++ items ++ [0])
  | .choice condition body other => do
    let condition ← encodeCondition? condition
    let length ← encodeLength? body.length
    let items ← encodeItems? body
    let otherLength ← encodeLength? other.length
    let others ← encodeItems? other
    pure (encodeVariant 1 ++ condition ++ length ++ items ++ [1] ++ otherLength ++ others)
  | .loop iterable body => do
    let iterable ← encodeExpression? iterable
    let length ← encodeLength? body.length
    let items ← encodeItems? body
    pure (encodeVariant 2 ++ iterable ++ length ++ items)
  | .while condition body => do
    let condition ← encodeCondition? condition
    let length ← encodeLength? body.length
    let items ← encodeItems? body
    pure (encodeVariant 3 ++ condition ++ length ++ items)
termination_by structural item => item

/-- The items of a block, without their number. -/
def encodeItems? : Block → Option Bytes
  | [] => some []
  | item :: rest => do
    let item ← encodeItem? item
    let rest ← encodeItems? rest
    pure (item ++ rest)
termination_by structural block => block

end

def encodeBlock? (block : Block) : Option Bytes := do
  let length ← encodeLength? block.length
  let items ← encodeItems? block
  pure (length ++ items)

def encodeSpec? (spec : EventSpec) : Option Bytes := do
  let kind ← encodeText? spec.kind
  let text ← encodeText? spec.text
  let payload ← encodePayload? spec.payload
  pure (kind ++ text ++ payload)

def encodeTrigger? (trigger : Trigger) : Option Bytes := do
  let file ← encodeFile? trigger.file
  let name ← encodeText? trigger.name
  let spec ← encodeSpec? trigger.event
  let body ← encodeBlock? trigger.body
  pure (file ++ name ++ spec ++ body)

def encodeCommand? (command : Command) : Option Bytes := do
  let name ← encodeText? command.name
  let file ← encodeFile? command.file
  let payload ← encodePayload? command.payload
  pure (name ++ file ++ payload)

def encodeUnit? (unit : CompiledUnit) : Option Bytes := do
  let triggers ← encodeSequence? encodeTrigger? unit.triggers
  let commands ← encodeSequence? encodeCommand? unit.commands
  pure (triggers ++ commands)

/-- The artifact of a unit, unless something in the unit cannot be written. -/
def encode? (stamp : Int64) (unit : CompiledUnit) : Option Bytes := do
  let unit ← encodeUnit? unit
  pure (stampBytes stamp ++ unit)

end TriggerScript.Artifact
